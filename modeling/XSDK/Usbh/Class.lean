import XSDK.Usbh.Slots

/-! The class drivers: which interfaces they take, what they do when an interface starts
and stops, and when one of their transfers ends. -/
namespace XSDK.Usbh

open Library Library.Call

variable (c : Config) (hcd : Hcd)

/-- The release of the transfer that a stopping instance points to, if any. -/
def heldTransferRelease : Option Nat → HostM Unit
  | some t => transferRelease c hcd t
  | none => pure ()

/- Boot keyboards and mice. -/

variable (interface : Interface)

def hidMatch : Bool :=
  decide (interface.classCode = 3 ∧ interface.subclass = 1 ∧ (interface.protocol = 1 ∨ interface.protocol = 2))

variable (h : Host) (i : Nat)

def hidInstanceFind : Option Nat :=
  firstWith c.hidMaxInstances fun k => (h.hid k).isAllocated && decide ((h.hid k).interfaceCtx = some i)

def hidInterruptInEndpointFind : Option Nat :=
  firstWith c.maxEndpoints fun e =>
    (h.endpoints e).isAllocated && decide ((h.endpoints e).interfaceIndex = i) &&
      decide ((h.endpoints e).endpointType = endpTypeIntr) && (h.endpoints e).isIn

def hidReportTypeGet : HidReportType :=
  if interface.protocol = 1 then .keyboard else if interface.protocol = 2 then .mouse else .none

def hidReportLengthGet : HidReportType → Nat
  | .mouse => 4
  | .keyboard => 8
  | .none => 0

variable (k : Nat)

def hidTransferSubmit : HostM Unit := do
  let h ← read id
  match (h.hid k).transfer, (h.hid k).endpointCtx with
  | some t, some e => do
    updateTransfer t fun transfer =>
      { transfer with
        deviceAddress := (h.devices (h.endpoints e).deviceIndex).address,
        endpointAddress := (h.endpoints e).endpointAddress, endpointType := (h.endpoints e).endpointType,
        interval := (h.endpoints e).interval, hasSetup := false, lastEvent := .complete,
        data := .hidReport k, length := (h.hid k).reportLength, actualLength := 0 }
    transferSubmit c hcd t
  | _, _ => fail .nullPointer

def hidStart (i : Nat) : HostM Unit := do
  let h ← read id
  match hidInterruptInEndpointFind c h i, firstFree c.hidMaxInstances fun k => (h.hid k).isAllocated with
  | none, _ => fail .invalidObject
  | some _, none => fail .resourceExhausted
  | some e, some k => do
    let reportType := hidReportTypeGet (h.interfaces i)
    updateHid k fun _ =>
      { HidInstance.zero with
        isAllocated := true, reportType := reportType, interfaceCtx := some i, endpointCtx := some e,
        reportLength := hidReportLengthGet reportType }
    let clear := updateHid k fun _ => HidInstance.zero
    let t ← onError (transferAllocate c) fun _ => clear
    updateHid k fun hid => { hid with transfer := some t }
    onError (hidTransferSubmit c hcd k) fun _ => do
      ignore (transferRelease c hcd t)
      clear

def hidStop (i : Nat) : HostM Unit := do
  let h ← read id
  match hidInstanceFind c h i with
  | none => pure ()
  | some k => do
    heldTransferRelease c hcd (h.hid k).transfer
    updateHid k fun _ => HidInstance.zero

def bytesOf (buffer : Nat → UInt8) (length : Nat) : List UInt8 := (List.range length).map buffer

/-- A mouse report without a fourth byte has a still wheel. -/
def hidMouseReport (buffer : Nat → UInt8) (length : Nat) : List UInt8 :=
  [buffer 0, buffer 1, buffer 2, if 3 < length then buffer 3 else 0]

def hidTransferComplete (i t : Nat) : HostM Unit := do
  let h ← read id
  match hidInstanceFind c h i with
  | none => pure ()
  | some k =>
    if (h.hid k).transfer ≠ some t then pure ()
    else if (h.transfers t).lastEvent ≠ .complete ∨ (h.transfers t).actualLength < (h.hid k).reportLength then pure ()
    else match (h.hid k).reportType with
      | .keyboard => do
        note (.keyboardReport (bytesOf (h.hid k).reportBuffer 8))
        hidTransferSubmit c hcd k
      | .mouse => do
        note (.mouseReport (hidMouseReport (h.hid k).reportBuffer (h.transfers t).actualLength))
        hidTransferSubmit c hcd k
      | .none => pure ()

/- Mass storage over bulk-only transport. -/

def mscMatch : Bool :=
  decide (interface.classCode = 8 ∧ interface.subclass = 6 ∧ interface.protocol = 0x50)

def mscInstanceFind (h : Host) (i : Nat) : Option Nat :=
  firstWith c.mscMaxInstances fun k => (h.msc k).isAllocated && decide ((h.msc k).interfaceCtx = some i)

def mscInstanceFindByLun (h : Host) (lun : Nat) : Option Nat :=
  firstWith c.mscMaxInstances fun k => (h.msc k).isAllocated && decide ((h.msc k).lun = lun)

def mscBulkEndpointFind (isIn : Bool) : Option Nat :=
  firstWith c.maxEndpoints fun e =>
    (h.endpoints e).isAllocated && decide ((h.endpoints e).interfaceIndex = i) &&
      decide ((h.endpoints e).endpointType = endpTypeBulk) && decide ((h.endpoints e).isIn = isIn)

def mscStart (i : Nat) : HostM Unit := do
  let h ← read id
  match mscBulkEndpointFind c h i true, mscBulkEndpointFind c h i false with
  | some bulkIn, some bulkOut =>
    match firstFree c.mscMaxInstances fun k => (h.msc k).isAllocated with
    | none => fail .resourceExhausted
    | some k =>
      updateMsc k fun _ =>
        { MscInstance.zero with
          isAllocated := true, state := .ready, interfaceCtx := some i, bulkInEndpoint := some bulkIn,
          bulkOutEndpoint := some bulkOut, nextTag := 1, blockSize := 512 }
  | _, _ => fail .invalidObject

def mscStop (i : Nat) : HostM Unit := do
  let h ← read id
  match mscInstanceFind c h i with
  | none => pure ()
  | some k => do
    heldTransferRelease c hcd (h.msc k).transfer
    updateMsc k fun _ => MscInstance.zero

variable (endpoint : Option Nat)

def mscTransferPrepareAndSubmit (data : Buffer) (length : Nat)
    (state : MscState) : HostM Unit := do
  let h ← read id
  match (h.msc k).transfer, endpoint with
  | some t, some e => do
    updateTransfer t fun transfer =>
      { transfer with
        deviceAddress := (h.devices (h.endpoints e).deviceIndex).address,
        endpointAddress := (h.endpoints e).endpointAddress, endpointType := (h.endpoints e).endpointType,
        interval := (h.endpoints e).interval, hasSetup := false, lastEvent := .complete,
        data := data, length := length, actualLength := 0 }
    updateMsc k fun msc => { msc with state := state }
    transferSubmit c hcd t
  | _, _ => fail .nullPointer

def mscControlTransferSubmit (setup : SetupRequest) (state : MscState) : HostM Unit := do
  let h ← read id
  match (h.msc k).transfer, (h.msc k).interfaceCtx with
  | some t, some i => do
    updateTransfer t fun transfer =>
      { transfer with
        deviceAddress := (h.devices (h.interfaces i).deviceIndex).address, endpointAddress := 0,
        endpointType := endpTypeCtrl, interval := 0, hasSetup := true, setup := setup, lastEvent := .complete,
        data := .none, length := 0, actualLength := 0 }
    updateMsc k fun msc => { msc with state := state }
    transferSubmit c hcd t
  | _, _ => fail .nullPointer

/-- The instance forgets its transfer even when the release fails. -/
def mscOwnedTransferRelease : HostM Unit := do
  let h ← read id
  let forget := updateMsc k fun msc =>
    { msc with
      transfer := none, dataBuffer := .none, dataLength := 0, activeTag := 0, activeOpcode := 0, capacity := none,
      activeDataIn := false }
  match (h.msc k).transfer with
  | some t => do
    let status ← attempt (transferRelease c hcd t)
    forget
    finish status
  | none => forget

def mscNextTag (tag : Nat) : Nat := if (tag + 1) % 2 ^ 32 = 0 then 1 else (tag + 1) % 2 ^ 32

def mscCbwFlags (dataIn : Bool) : UInt8 := if dataIn = true then 0x80 else 0x00

def mscCbw (tag lun dataLength : Nat) (cdb : List UInt8) (dataIn : Bool) : Nat → UInt8 := fun j =>
  if j < 15 then
    Function.update (Function.update (Function.update
      (writeLE32 (writeLE32 (writeLE32 (fun _ => 0) 0 0x43425355) 4 tag) 8 dataLength)
      12 (mscCbwFlags dataIn)) 13 (UInt8.ofNat lun)) 14 (UInt8.ofNat cdb.length) j
  else cdb.getD (j - 15) 0

def mscCbwPrepare (k lun : Nat) (cdb : List UInt8) (dataLength : Nat) (dataIn : Bool) : HostM Unit :=
  updateMsc k fun msc =>
    { msc with
      nextTag := mscNextTag msc.nextTag, activeTag := msc.nextTag, activeOpcode := (cdb.getD 0 0).toNat,
      activeDataIn := dataIn, cbw := mscCbw msc.nextTag lun dataLength cdb dataIn }

def mscScsiCommandStart (lun : Nat) (cdb : List UInt8) (buffer : Buffer) (dataLength : Nat) (dataIn : Bool) :
    HostM Unit := do
  reject (0 < dataLength ∧ buffer = .none) .nullPointer
  reject (15 < lun ∨ cdb.length = 0 ∨ 16 < cdb.length) .invalidArgument
  let h ← read id
  match mscInstanceFindByLun c h lun with
  | none => fail .invalidObject
  | some k => do
    reject ((h.msc k).state ≠ .ready ∨ (h.msc k).transfer.isSome = true) .invalidState
    let t ← transferAllocate c
    updateMsc k fun msc => { msc with transfer := some t, dataBuffer := buffer, dataLength := dataLength, error := .none }
    mscCbwPrepare k lun cdb dataLength dataIn
    onError (mscTransferPrepareAndSubmit c hcd k (h.msc k).bulkOutEndpoint (.mscCbw k) 31 .command) fun _ => do
      ignore (mscOwnedTransferRelease c hcd k)
      updateMsc k fun msc => { msc with state := .ready }

def be32Bytes (x : Nat) : List UInt8 :=
  [UInt8.ofNat (x / 2 ^ 24), UInt8.ofNat (x / 2 ^ 16), UInt8.ofNat (x / 2 ^ 8), UInt8.ofNat x]

def be16Bytes (x : Nat) : List UInt8 := [UInt8.ofNat (x / 2 ^ 8), UInt8.ofNat x]

def readBE32 (d : Nat → UInt8) (k : Nat) : Nat :=
  (d k).toNat * 2 ^ 24 + (d (k + 1)).toNat * 2 ^ 16 + (d (k + 2)).toNat * 2 ^ 8 + (d (k + 3)).toNat

variable (lun lba blockCount : Nat) (buffer : Buffer) (bufferLength : Nat)

def mscBlockOperationStart (isRead : Bool) :
    HostM Unit := do
  reject (buffer = .none) .nullPointer
  reject (15 < lun ∨ blockCount = 0) .invalidArgument
  let h ← read id
  match mscInstanceFindByLun c h lun with
  | none => fail .invalidObject
  | some k => do
    let msc := h.msc k
    reject (msc.state ≠ .ready ∨ msc.transfer.isSome = true) .invalidState
    reject (msc.blockSize = 0 ∨ (2 ^ 32 - 1) / msc.blockSize < blockCount) .invalidState
    let dataLength := blockCount * msc.blockSize
    reject (bufferLength < dataLength) .invalidArgument
    let opcode : UInt8 := if isRead = true then 0x28 else 0x2A
    mscScsiCommandStart c hcd lun ([opcode, 0] ++ be32Bytes lba ++ [0] ++ be16Bytes blockCount ++ [0]) buffer dataLength isRead

def mscTransferErrorUpdate (k t : Nat) : HostM Unit := do
  let h ← read id
  let transfer := h.transfers t
  updateMsc k fun msc =>
    if transfer.lastEvent = .stalled then { msc with state := .resetRecovery, error := .stall }
    else if transfer.lastEvent = .short ∨ transfer.actualLength < transfer.length then
      { msc with state := .error, error := .shortTransfer }
    else if transfer.lastEvent ≠ .complete then { msc with state := .resetRecovery, error := .phaseError }
    else { msc with error := .none }

variable (transfer : Transfer)

def mscTransferHasError : Bool :=
  decide (transfer.lastEvent ≠ .complete ∨ transfer.actualLength < transfer.length)

def mscDataComplete : HostM Unit := do
  let h ← read id
  updateMsc k fun msc => { msc with csw := fun _ => 0 }
  mscTransferPrepareAndSubmit c hcd k (h.msc k).bulkInEndpoint (.mscCsw k) 13 .status

def mscCommandComplete : HostM Unit := do
  let h ← read id
  let msc := h.msc k
  if msc.dataLength = 0 then mscDataComplete c hcd k
  else
    mscTransferPrepareAndSubmit c hcd k (if msc.activeDataIn = true then msc.bulkInEndpoint else msc.bulkOutEndpoint)
      msc.dataBuffer msc.dataLength (if msc.activeDataIn = true then .dataIn else .dataOut)

def mscSuccessDataParse : HostM Unit := do
  let h ← read id
  let msc := h.msc k
  match msc.capacity with
  | some pointer =>
    onlyIf (msc.activeOpcode = 0x25) do
      let lastLba := readBE32 msc.capacityBuffer 0
      let blockSize := readBE32 msc.capacityBuffer 4
      note (.capacity pointer (if lastLba = 2 ^ 32 - 1 then 2 ^ 32 - 1 else lastLba + 1) blockSize)
      updateMsc k fun msc => { msc with blockSize := blockSize }
  | none => pure ()

def mscCswComplete : HostM Unit := do
  let h ← read id
  let msc := h.msc k
  let signature := readLE32 msc.csw 0
  let tag := readLE32 msc.csw 4
  let residue := readLE32 msc.csw 8
  let status := (msc.csw 12).toNat
  if signature ≠ 0x53425355 ∨ tag ≠ msc.activeTag ∨ status = 2 then do
    updateMsc k fun msc => { msc with state := .resetRecovery, error := .phaseError }
    mscOwnedTransferRelease c hcd k
  else if status = 1 then do
    updateMsc k fun msc => { msc with state := .error, error := .commandFailed }
    mscOwnedTransferRelease c hcd k
  else if status ≠ 0 ∨ residue ≠ 0 then do
    updateMsc k fun msc => { msc with state := .error, error := .shortTransfer }
    mscOwnedTransferRelease c hcd k
  else do
    updateMsc k fun msc => { msc with state := .ready, error := .none }
    mscSuccessDataParse k
    mscOwnedTransferRelease c hcd k

def mscClearHaltSubmit (state : MscState) : HostM Unit := do
  let h ← read id
  match endpoint with
  | none => fail .invalidObject
  | some e => mscControlTransferSubmit c hcd k (setupBuildClearFeature 2 0 (h.endpoints e).endpointAddress) state

def mscHaltStep (state : MscState) : HostM Unit :=
  onError (mscClearHaltSubmit c hcd k endpoint state) fun _ => do
    updateMsc k fun msc => { msc with state := .resetRecovery, error := .resetRecoveryRequired }
    ignore (mscOwnedTransferRelease c hcd k)

def mscResetRequestComplete : HostM Unit := do
  let h ← read id
  mscHaltStep c hcd k (h.msc k).bulkInEndpoint .clearInHalt

def mscClearInHaltComplete : HostM Unit := do
  let h ← read id
  mscHaltStep c hcd k (h.msc k).bulkOutEndpoint .clearOutHalt

def mscClearOutHaltComplete : HostM Unit := do
  updateMsc k fun msc => { msc with state := .ready, error := .none }
  mscOwnedTransferRelease c hcd k

def mscTransferComplete (i t : Nat) : HostM Unit := do
  let h ← read id
  match mscInstanceFind c h i with
  | none => pure ()
  | some k =>
    if (h.msc k).transfer = some t then
      if mscTransferHasError (h.transfers t) = true then do
        mscTransferErrorUpdate k t
        mscOwnedTransferRelease c hcd k
      else match (h.msc k).state with
        | .command => mscCommandComplete c hcd k
        | .dataIn => mscDataComplete c hcd k
        | .dataOut => mscDataComplete c hcd k
        | .status => mscCswComplete c hcd k
        | .resetRequest => mscResetRequestComplete c hcd k
        | .clearInHalt => mscClearInHaltComplete c hcd k
        | .clearOutHalt => mscClearOutHaltComplete c hcd k
        | _ => pure ()
    else mscTransferErrorUpdate k t

def mscMassStorageResetSubmit : HostM Unit := do
  let h ← read id
  match (h.msc k).interfaceCtx with
  | none => fail .nullPointer
  | some i => mscControlTransferSubmit c hcd k ⟨0x21, 0xFF, 0, (h.interfaces i).interfaceNumber, 0⟩ .resetRequest

def mscResetRecoveryStart : HostM Unit := do
  let t ← transferAllocate c
  updateMsc k fun msc => { msc with transfer := some t }
  onError (mscMassStorageResetSubmit c hcd k) fun _ => do
    ignore (mscOwnedTransferRelease c hcd k)
    updateMsc k fun msc => { msc with state := .resetRecovery }

def mscReadBlocks : HostM Unit :=
  mscBlockOperationStart c hcd lun lba blockCount buffer bufferLength true

def mscWriteBlocks : HostM Unit :=
  mscBlockOperationStart c hcd lun lba blockCount buffer bufferLength false

def mscInquiry (lun : Nat) (buffer : Buffer) (bufferLength : Nat) : HostM Unit := do
  reject (buffer = .none) .nullPointer
  reject (bufferLength < 36) .invalidArgument
  mscScsiCommandStart c hcd lun [0x12, 0, 0, 0, 36, 0] buffer 36 true

def mscReadCapacity (lun capacity : Nat) : HostM Unit := do
  reject (15 < lun) .invalidArgument
  let h ← read id
  match mscInstanceFindByLun c h lun with
  | none => fail .invalidObject
  | some k => do
    mscScsiCommandStart c hcd lun [0x25, 0, 0, 0, 0, 0, 0, 0, 0, 0] (.mscCapacity k) 8 true
    updateMsc k fun msc => { msc with capacity := some capacity }

def mscTestUnitReady (lun : Nat) : HostM Unit := mscScsiCommandStart c hcd lun [0, 0, 0, 0, 0, 0] .none 0 false

def mscRequestSense (lun : Nat) (buffer : Buffer) (bufferLength : Nat) : HostM Unit := do
  reject (buffer = .none) .nullPointer
  reject (bufferLength < 18) .invalidArgument
  mscScsiCommandStart c hcd lun [0x03, 0, 0, 0, 18, 0] buffer 18 true

def mscResetRecovery (lun : Nat) : HostM Unit := do
  reject (15 < lun) .invalidArgument
  let h ← read id
  match mscInstanceFindByLun c h lun with
  | none => fail .invalidObject
  | some k => do
    reject ((h.msc k).state ≠ .resetRecovery ∨ (h.msc k).transfer.isSome = true) .invalidState
    updateMsc k fun msc => { msc with error := .resetRecoveryRequired }
    mscResetRecoveryStart c hcd k

/- What the core asks of a class. -/

def ClassDriver.matches : ClassDriver → Interface → Bool
  | .hid => hidMatch
  | .msc => mscMatch

def classStart : ClassDriver → Nat → HostM Unit
  | .hid => hidStart c hcd
  | .msc => mscStart c

def classStop : ClassDriver → Nat → HostM Unit
  | .hid => hidStop c hcd
  | .msc => mscStop c hcd

def transferComplete : ClassDriver → Nat → Nat → HostM Unit
  | .hid => hidTransferComplete c hcd
  | .msc => mscTransferComplete c hcd

def registerClass (driver : ClassDriver) : HostM Unit := do
  let h ← read id
  reject (h.isInitialized = false) .notInitialized
  reject (h.isStarted = true) .invalidState
  reject (driver ∈ h.classRegistrations) .invalidState
  reject (c.maxClassDrivers ≤ h.classRegistrations.length) .resourceExhausted
  modify fun h => { h with classRegistrations := h.classRegistrations ++ [driver] }

def classBindInterface : HostM Unit := do
  let h ← read id
  let found := h.classRegistrations.filter fun driver => driver.matches (h.interfaces i)
  reject (1 < found.length) .ambiguousClassMatch
  match found with
  | [] => pure ()
  | driver :: _ => do
    classStart c hcd driver i
    updateInterface i fun interface => { interface with classDriver := some driver }

def classUnbindDevice (d : Nat) : HostM Unit := do
  let h ← read id
  reject (h.isInitialized = false) .notInitialized
  reject (c.maxDevices ≤ d ∨ (h.devices d).isAllocated = false) .invalidObject
  forEach (fun i => do
    let interface ← read fun h => h.interfaces i
    match interface.classDriver with
    | none => pure ()
    | some driver =>
      onlyIf (interface.isAllocated = true ∧ interface.deviceIndex = d) do
        let status ← attempt (classStop c hcd driver i)
        updateInterface i fun interface => { interface with classDriver := none }
        finish status) c.maxInterfaces 0

def classBindDevice (d : Nat) : HostM Unit := do
  let h ← read id
  reject (h.isInitialized = false) .notInitialized
  reject (c.maxDevices ≤ d ∨ (h.devices d).isAllocated = false) .invalidObject
  forEach (fun i => do
    let interface ← read fun h => h.interfaces i
    onlyIf (interface.isAllocated = true ∧ interface.deviceIndex = d)
      (onError (classBindInterface c hcd i) fun _ => classUnbindDevice c hcd d)) c.maxInterfaces 0

def classTransferDeviceIndexGet : Option Nat :=
  firstWith c.maxDevices fun d => (h.devices d).isAllocated && decide ((h.devices d).address = transfer.deviceAddress)

def classTransferEndpointGet : Option Nat := do
  let d ← classTransferDeviceIndexGet c h transfer
  firstWith c.maxEndpoints fun e =>
    (h.endpoints e).isAllocated && decide ((h.endpoints e).deviceIndex = d) &&
      decide ((h.endpoints e).endpointAddress = transfer.endpointAddress)

def classTransferControlDispatch (t : Nat) : HostM Unit := do
  let h ← read id
  match classTransferDeviceIndexGet c h (h.transfers t) with
  | none => pure ()
  | some d =>
    if (h.transfers t).hasSetup = false then pure ()
    else forEach (fun i => do
      let interface ← read fun h => h.interfaces i
      match interface.classDriver with
      | none => pure ()
      | some driver =>
        onlyIf (interface.isAllocated = true ∧ interface.deviceIndex = d) (transferComplete c hcd driver i t)) c.maxInterfaces 0

def classTransferComplete (t : Nat) : HostM Unit := do
  let h ← read id
  reject (h.isInitialized = false) .notInitialized
  match classTransferEndpointGet c h (h.transfers t) with
  | none => classTransferControlDispatch c hcd t
  | some e =>
    let i := (h.endpoints e).interfaceIndex
    if c.maxInterfaces ≤ i then pure ()
    else match (h.interfaces i).classDriver with
      | none => pure ()
      | some driver => onlyIf ((h.interfaces i).isAllocated = true) (transferComplete c hcd driver i t)

end XSDK.Usbh
