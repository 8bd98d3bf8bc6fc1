import XSDK.Usbh.Defs

/-! The host's descriptor parsers and its standard requests. A parser sees a buffer and the
number of bytes of it that count. -/
namespace XSDK.Usbh

open Library

def deviceDescLen : Nat := 18
def configurationDescLen : Nat := 9
def interfaceDescLen : Nat := 9
def endpointDescLen : Nat := 7

def descTypeDevice : Nat := 1
def descTypeConfiguration : Nat := 2
def descTypeInterface : Nat := 4
def descTypeEndpoint : Nat := 5

def endpTypeCtrl : Nat := 0
def endpTypeBulk : Nat := 2
def endpTypeIntr : Nat := 3

structure DescriptorHeader where
  offset : Nat
  length : Nat
  type : Nat
  deriving DecidableEq, Repr

variable (buffer : Nat → UInt8)

def descriptorHeaderParseAt (bufferLength offset : Nat) : Except Error DescriptorHeader :=
  if bufferLength < 2 ∨ bufferLength - 2 < offset then .error .invalidArgument
  else
    let remainingLength := bufferLength - offset
    let descriptorLength := (buffer offset).toNat
    let descriptorType := (buffer (offset + 1)).toNat
    if descriptorLength < 2 ∨ remainingLength < descriptorLength then .error .invalidArgument
    else .ok ⟨offset, descriptorLength, descriptorType⟩

def descriptorHeaderParse (bufferLength minLength expectedType : Nat) :
    Except Error DescriptorHeader := do
  let header ← descriptorHeaderParseAt buffer bufferLength 0
  if header.type ≠ expectedType ∨ header.length < minLength then .error .invalidArgument else .ok header

structure DeviceDescriptor where
  deviceClass : Nat
  deviceSubclass : Nat
  deviceProtocol : Nat
  vendorId : Nat
  productId : Nat
  configurationCount : Nat

variable (bufferLength : Nat)

def deviceDescriptorParse : Except Error DeviceDescriptor := do
  let _ ← descriptorHeaderParse buffer bufferLength deviceDescLen descTypeDevice
  .ok {
    deviceClass := (buffer 4).toNat, deviceSubclass := (buffer 5).toNat, deviceProtocol := (buffer 6).toNat,
    vendorId := readLE16 buffer 8, productId := readLE16 buffer 10, configurationCount := (buffer 17).toNat }

structure ConfigurationDescriptor where
  totalLength : Nat
  interfaceCount : Nat
  configurationValue : Nat

def configurationDescriptorParse :
    Except Error ConfigurationDescriptor := do
  let _ ← descriptorHeaderParse buffer bufferLength configurationDescLen descTypeConfiguration
  .ok { totalLength := readLE16 buffer 2, interfaceCount := (buffer 4).toNat, configurationValue := (buffer 5).toNat }

structure InterfaceDescriptor where
  interfaceNumber : Nat
  alternateSetting : Nat
  endpointCount : Nat
  classCode : Nat
  subclass : Nat
  protocol : Nat

def interfaceDescriptorParse : Except Error InterfaceDescriptor := do
  let _ ← descriptorHeaderParse buffer bufferLength interfaceDescLen descTypeInterface
  .ok {
    interfaceNumber := (buffer 2).toNat, alternateSetting := (buffer 3).toNat, endpointCount := (buffer 4).toNat,
    classCode := (buffer 5).toNat, subclass := (buffer 6).toNat, protocol := (buffer 7).toNat }

structure EndpointDescriptor where
  endpointAddress : Nat
  endpointType : Nat
  maxPacketSize : Nat
  interval : Nat

def endpointDescriptorParse : Except Error EndpointDescriptor := do
  let _ ← descriptorHeaderParse buffer bufferLength endpointDescLen descTypeEndpoint
  .ok {
    endpointAddress := (buffer 2).toNat, endpointType := (buffer 3).toNat % 4, maxPacketSize := readLE16 buffer 4,
    interval := (buffer 6).toNat }

def DescriptorHeader.data (header : DescriptorHeader) (buffer : Nat → UInt8) :
    Nat → UInt8 := fun j => buffer (header.offset + j)

/-- The descriptors of a buffer, one after the other. A descriptor takes two bytes at least. -/
def descriptorWalk (buffer : Nat → UInt8) (length : Nat) : Nat → Nat → Except Error (List DescriptorHeader)
  | 0, _ => .ok []
  | fuel + 1, offset =>
    if length ≤ offset then .ok []
    else do
      let header ← descriptorHeaderParseAt buffer length offset
      let rest ← descriptorWalk buffer length fuel (offset + header.length)
      .ok (header :: rest)

def configurationDescriptorValidate : Except Error Nat := do
  let config ← configurationDescriptorParse buffer bufferLength
  if config.totalLength < configurationDescLen ∨ bufferLength < config.totalLength then .error .invalidArgument
  else
    let _ ← descriptorWalk buffer config.totalLength config.totalLength 0
    .ok config.totalLength

/- The standard requests. -/

def setupBuildGetDescriptor (descriptorType descriptorIndex index length : Nat) : SetupRequest :=
  ⟨0x80, 6, 256 * descriptorType + descriptorIndex, index, length⟩

def setupBuildSetAddress (address : Nat) : Except Error SetupRequest :=
  if 127 < address then .error .invalidArgument else .ok ⟨0x00, 5, address, 0, 0⟩

def setupBuildSetConfiguration (configurationValue : Nat) : SetupRequest := ⟨0x00, 9, configurationValue, 0, 0⟩

def setupBuildClearFeature (recipient feature index : Nat) : SetupRequest := ⟨recipient, 1, feature, index, 0⟩

def ep0PacketSizeDecode (speed : Speed) (descriptorValue : Nat) : Except Error Nat :=
  match speed with
  | .low => if descriptorValue = 8 then .ok 8 else .error .unsupportedDescriptor
  | .full =>
    if descriptorValue = 8 ∨ descriptorValue = 16 ∨ descriptorValue = 32 ∨ descriptorValue = 64 then .ok descriptorValue
    else .error .unsupportedDescriptor
  | .high => if descriptorValue = 64 then .ok 64 else .error .unsupportedDescriptor
  | .super => if descriptorValue = 9 then .ok 512 else .error .unsupportedDescriptor

end XSDK.Usbh

/-! The slots for interfaces, endpoints and transfers, and a transfer's way to the
controller and back. -/
namespace XSDK.Usbh

open Library Library.Call

variable (c : Config) (hcd : Hcd) (d : Nat)

def interfaceAllocate : HostM Nat := do
  contextReadyForRuntimeSlots
  let h ← read id
  reject (c.maxDevices ≤ d ∨ (h.devices d).isAllocated = false) .invalidObject
  match firstFree c.maxInterfaces fun i => (h.interfaces i).isAllocated with
  | some i => do
    updateInterface i fun _ => { Interface.zero with isAllocated := true, deviceIndex := d }
    pure i
  | none => fail .resourceExhausted

def endpointAllocate (i : Nat) : HostM Nat := do
  contextReadyForRuntimeSlots
  let h ← read id
  reject (c.maxInterfaces ≤ i ∨ (h.interfaces i).isAllocated = false) .invalidObject
  match firstFree c.maxEndpoints fun e => (h.endpoints e).isAllocated with
  | some e => do
    updateEndpoint e fun _ =>
      { Endpoint.zero with isAllocated := true, deviceIndex := (h.interfaces i).deviceIndex, interfaceIndex := i }
    pure e
  | none => fail .resourceExhausted

def transferAllocate : HostM Nat := do
  contextReadyForRuntimeSlots
  let h ← read id
  match firstFree c.maxTransfers fun t => (h.transfers t).isAllocated with
  | some t => do
    updateTransfer t fun _ => { Transfer.zero with isAllocated := true }
    pure t
  | none => fail .resourceExhausted

def transferCancelIfSubmitted (t : Nat) : HostM Unit := do
  let transfer ← read fun h => h.transfers t
  if transfer.isSubmitted = false then pure ()
  else do
    ask (.cancel t) fun log => hcd.cancelTransfer log t
    updateTransfer t fun transfer => { transfer with isSubmitted := false }

def transferRelease (t : Nat) : HostM Unit := do
  contextReadyForRuntimeSlots
  let transfer ← read fun h => h.transfers t
  reject (c.maxTransfers ≤ t ∨ transfer.isAllocated = false) .invalidObject
  transferCancelIfSubmitted hcd t
  updateTransfer t fun _ => Transfer.zero

def transferSubmit (t : Nat) : HostM Unit := do
  let h ← read id
  reject (h.isInitialized = false) .notInitialized
  reject (h.isStarted = false) .notStarted
  reject (c.maxTransfers ≤ t ∨ (h.transfers t).isAllocated = false) .invalidObject
  reject ((h.transfers t).isSubmitted = true) .invalidState
  ask (.submit t (h.transfers t)) fun log => hcd.submitTransfer log t (h.transfers t)
  updateTransfer t fun transfer => { transfer with isSubmitted := true }

/-- The slots of a device are freed whether or not the controller gives the transfers back. -/
def releaseTransfersForDevice (deviceAddress : Nat) : HostM Unit :=
  forEach (fun t => do
    let transfer ← read fun h => h.transfers t
    onlyIf (transfer.isAllocated = true ∧ transfer.deviceAddress = deviceAddress) do
      ignore (transferCancelIfSubmitted hcd t)
      updateTransfer t fun _ => Transfer.zero) c.maxTransfers 0

def releaseEndpointsForInterface (i : Nat) : HostM Unit :=
  forEach (fun e => do
    let endpoint ← read fun h => h.endpoints e
    onlyIf (endpoint.isAllocated = true ∧ endpoint.interfaceIndex = i) (updateEndpoint e fun _ => Endpoint.zero))
    c.maxEndpoints 0

def releaseInterfacesForDevice : HostM Unit :=
  forEach (fun i => do
    let interface ← read fun h => h.interfaces i
    onlyIf (interface.isAllocated = true ∧ interface.deviceIndex = d) do
      releaseEndpointsForInterface c i
      updateInterface i fun _ => Interface.zero) c.maxInterfaces 0

/- The topology of a configuration descriptor. -/

structure TopologyParse where
  currentInterface : Option Nat
  currentExpectedEndpointCount : Nat
  isSkippingAlternate : Bool
  activeInterfaceCount : Nat

def TopologyParse.zero : TopologyParse := ⟨none, 0, false, 0⟩

def endpointAddressIsValid (endpointAddress : Nat) :
    Bool := decide (endpointAddress % 16 ≠ 0 ∧ endpointAddress / 16 % 8 = 0)

def endpointAddressIsIn (endpointAddress : Nat) : Bool := decide (endpointAddress / 128 % 2 = 1)

def endpointExistsForDevice (h : Host) (d endpointAddress : Nat) : Bool :=
  (List.range c.maxEndpoints).any fun e =>
    (h.endpoints e).isAllocated && decide ((h.endpoints e).deviceIndex = d) && decide
      ((h.endpoints e).endpointAddress = endpointAddress)

def topologyCurrentInterfaceFinish (parser : TopologyParse) : HostM TopologyParse := do
  let h ← read id
  match parser.currentInterface with
  | some i =>
    reject ((h.interfaces i).endpointCount ≠ parser.currentExpectedEndpointCount) .unsupportedDescriptor
    pure { parser with currentInterface := none, currentExpectedEndpointCount := 0, isSkippingAlternate := false }
  | none => pure { parser with currentInterface := none, currentExpectedEndpointCount := 0, isSkippingAlternate := false }

def topologyInterfaceStore (data : Nat → UInt8) (length : Nat) (parser : TopologyParse) :
    HostM TopologyParse := do
  let parser ← topologyCurrentInterfaceFinish parser
  let descriptor ← finish (interfaceDescriptorParse data length)
  if descriptor.alternateSetting ≠ 0 then pure { parser with isSkippingAlternate := true }
  else do
    let i ← interfaceAllocate c d
    updateInterface i fun interface =>
      { interface with
        interfaceNumber := descriptor.interfaceNumber, alternateSetting := descriptor.alternateSetting,
        classCode := descriptor.classCode, subclass := descriptor.subclass, protocol := descriptor.protocol,
        endpointCount := 0 }
    pure {
      parser with
      currentInterface := some i, currentExpectedEndpointCount := descriptor.endpointCount,
      activeInterfaceCount := parser.activeInterfaceCount + 1 }

def topologyEndpointStore (data : Nat → UInt8) (length : Nat) (parser : TopologyParse) :
    HostM TopologyParse := do
  let h ← read id
  match parser.currentInterface with
  | none => if parser.isSkippingAlternate = true then pure parser else fail .unsupportedDescriptor
  | some i =>
    reject (parser.currentExpectedEndpointCount ≤ (h.interfaces i).endpointCount) .unsupportedDescriptor
    let descriptor ← finish (endpointDescriptorParse data length)
    reject (endpointAddressIsValid descriptor.endpointAddress = false ∨ descriptor.endpointType = endpTypeCtrl ∨
      descriptor.maxPacketSize = 0 ∨ endpointExistsForDevice c h d descriptor.endpointAddress = true) .unsupportedDescriptor
    let e ← endpointAllocate c i
    updateEndpoint e fun endpoint =>
      { endpoint with
        endpointAddress := descriptor.endpointAddress, endpointType := descriptor.endpointType,
        isIn := endpointAddressIsIn descriptor.endpointAddress, maxPacketSize := descriptor.maxPacketSize,
        interval := descriptor.interval }
    updateInterface i fun interface => { interface with endpointCount := interface.endpointCount + 1 }
    pure parser

def topologyDescriptorStore (buffer : Nat → UInt8) (header : DescriptorHeader) (parser : TopologyParse) :
    HostM TopologyParse :=
  if header.type = descTypeInterface then topologyInterfaceStore c d (header.data buffer) header.length parser
  else if header.type = descTypeEndpoint then topologyEndpointStore c d (header.data buffer) header.length parser
  else pure parser

/-- The walk over the descriptors. Each takes two bytes at least. -/
def topologyWalk (d : Nat) (buffer : Nat → UInt8) (length : Nat) : Nat → Nat → TopologyParse → HostM TopologyParse
  | 0, _, parser => pure parser
  | fuel + 1, offset, parser =>
    if length ≤ offset then pure parser
    else do
      let header ← finish (descriptorHeaderParseAt buffer length offset)
      let parser ← topologyDescriptorStore c d buffer header parser
      topologyWalk d buffer length fuel (offset + header.length) parser

def deviceBuildTopology (buffer : Nat → UInt8) (bufferLength : Nat) : HostM Unit := do
  contextReadyForRuntimeSlots
  let h ← read id
  reject (c.maxDevices ≤ d ∨ (h.devices d).isAllocated = false) .invalidObject
  let totalLength ← finish (configurationDescriptorValidate buffer bufferLength)
  releaseInterfacesForDevice c d
  onError (do
    let parser ← topologyWalk c d buffer totalLength totalLength 0 TopologyParse.zero
    let parser ← topologyCurrentInterfaceFinish parser
    reject (parser.activeInterfaceCount = 0) .unsupportedDescriptor) fun _ => releaseInterfacesForDevice c d

end XSDK.Usbh
