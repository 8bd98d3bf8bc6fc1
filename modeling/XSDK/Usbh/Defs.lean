import Mathlib.Logic.Function.Basic
import XSDK.Library.Call
import XSDK.Library.LittleEndian

/-! The USB host stack's data: root ports, the one enumeration record, and the slots for
devices, interfaces, endpoints and transfers, with the HID and mass-storage class contexts. -/
namespace XSDK.Usbh

open Library Library.Call

/-- The compile-time limits. A loop over slots counts in eight bits. -/
structure Config where
  maxRootPorts : Nat
  maxDevices : Nat
  maxInterfaces : Nat
  maxEndpoints : Nat
  maxTransfers : Nat
  maxClassDrivers : Nat
  hidMaxInstances : Nat
  mscMaxInstances : Nat
  maxConfigDescriptorSize : Nat
  connectDebounceSamples : Nat
  controlTransferTimeoutTicks : Nat
  addressSettleTicks : Nat
  rootPorts_small : maxRootPorts ≤ 255
  devices_small : maxDevices ≤ 255
  interfaces_small : maxInterfaces ≤ 255
  endpoints_small : maxEndpoints ≤ 255
  transfers_small : maxTransfers ≤ 255

inductive Error
  | hcdNullPointer
  | hcd (code : Nat)
  | nullPointer
  | invalidConfiguration
  | notInitialized
  | alreadyStarted
  | notStarted
  | invalidArgument
  | invalidState
  | invalidObject
  | resourceExhausted
  | timeout
  | unsupportedDescriptor
  | ambiguousClassMatch
  deriving DecidableEq, Repr

inductive Speed
  | low
  | full
  | high
  | super
  deriving DecidableEq, Repr

inductive TransferEvent
  | complete
  | short
  | stalled
  | error
  | cancelled
  deriving DecidableEq, Repr

inductive PortEvent
  | connected
  | disconnected
  | resetComplete
  | suspended
  | resumed
  | overcurrent
  deriving DecidableEq, Repr

structure PortStatus where
  isConnected : Bool
  isEnabled : Bool
  isOvercurrent : Bool
  speed : Speed

inductive LifecycleState
  | created
  | initialized
  | started
  | stopped
  deriving DecidableEq, Repr

inductive RootPortState
  | disconnected
  | connected
  | powered
  | resetting
  | enabled
  | enumerating
  | configured
  | suspended
  | error
  deriving DecidableEq, Repr

structure RootPort where
  state : RootPortState
  isConnected : Bool
  isResetComplete : Bool
  hasDevice : Bool
  debounceRemaining : Nat
  deviceIndex : Nat
  speed : Speed

def RootPort.zero : RootPort := ⟨.disconnected, false, false, false, 0, 0, .low⟩

inductive EnumerationState
  | idle
  | getDeviceHeaderSubmit
  | getDeviceHeaderWait
  | setAddressSubmit
  | setAddressWait
  | addressSettle
  | getDeviceFullSubmit
  | getDeviceFullWait
  | getConfigHeaderSubmit
  | getConfigHeaderWait
  | getConfigFullSubmit
  | getConfigFullWait
  | setConfigurationSubmit
  | setConfigurationWait
  | complete
  | error
  deriving DecidableEq, Repr

structure Enumeration where
  state : EnumerationState
  isActive : Bool
  hasTransfer : Bool
  port : Nat
  deviceIndex : Nat
  transferIndex : Nat
  assignedAddress : Nat
  addressSettleRemaining : Nat
  timeoutRemaining : Nat
  configTotalLength : Nat
  configurationValue : Nat
  deriving DecidableEq

def Enumeration.zero : Enumeration := ⟨.idle, false, false, 0, 0, 0, 0, 0, 0, 0, 0⟩

inductive DeviceState
  | detached
  | attached
  | addressed
  | configured
  deriving DecidableEq, Repr

structure Device where
  isAllocated : Bool
  state : DeviceState
  port : Nat
  address : Nat
  speed : Speed
  ep0MaxPacketSize : Nat
  vendorId : Nat
  productId : Nat
  deviceClass : Nat
  deviceSubclass : Nat
  deviceProtocol : Nat
  activeConfigurationValue : Nat
  isConfigured : Bool
  deriving DecidableEq

def Device.zero : Device := ⟨false, .detached, 0, 0, .low, 0, 0, 0, 0, 0, 0, 0, false⟩

/-- The class drivers of the stack. Each has one context. -/
inductive ClassDriver
  | hid
  | msc
  deriving DecidableEq, Repr

structure Interface where
  isAllocated : Bool
  deviceIndex : Nat
  interfaceNumber : Nat
  alternateSetting : Nat
  classCode : Nat
  subclass : Nat
  protocol : Nat
  endpointCount : Nat
  classDriver : Option ClassDriver
  deriving DecidableEq

def Interface.zero : Interface := ⟨false, 0, 0, 0, 0, 0, 0, 0, none⟩

structure Endpoint where
  isAllocated : Bool
  deviceIndex : Nat
  interfaceIndex : Nat
  endpointAddress : Nat
  endpointType : Nat
  isIn : Bool
  maxPacketSize : Nat
  interval : Nat
  deriving DecidableEq

def Endpoint.zero : Endpoint := ⟨false, 0, 0, 0, 0, false, 0, 0⟩

structure SetupRequest where
  requestType : Nat
  request : Nat
  value : Nat
  index : Nat
  length : Nat
  deriving DecidableEq, Repr

def SetupRequest.zero : SetupRequest := ⟨0, 0, 0, 0, 0⟩

/-- Where the data of a transfer lies. -/
inductive Buffer
  | none
  | control
  | hidReport (k : Nat)
  | mscCbw (k : Nat)
  | mscCsw (k : Nat)
  | mscCapacity (k : Nat)
  | caller (pointer : Nat)
  deriving DecidableEq, Repr

structure Transfer where
  deviceAddress : Nat
  endpointAddress : Nat
  endpointType : Nat
  interval : Nat
  isAllocated : Bool
  isSubmitted : Bool
  hasSetup : Bool
  setup : SetupRequest
  lastEvent : TransferEvent
  data : Buffer
  length : Nat
  actualLength : Nat
  deriving DecidableEq

def Transfer.zero : Transfer := ⟨0, 0, 0, 0, false, false, false, .zero, .complete, .none, 0, 0⟩

inductive HidReportType
  | none
  | keyboard
  | mouse
  deriving DecidableEq, Repr

structure HidInstance where
  isAllocated : Bool
  reportType : HidReportType
  interfaceCtx : Option Nat
  endpointCtx : Option Nat
  transfer : Option Nat
  reportBuffer : Nat → UInt8
  reportLength : Nat

def HidInstance.zero : HidInstance := ⟨false, .none, none, none, none, fun _ => 0, 0⟩

inductive MscState
  | idle
  | ready
  | command
  | dataIn
  | dataOut
  | status
  | resetRecovery
  | resetRequest
  | clearInHalt
  | clearOutHalt
  | error
  deriving DecidableEq, Repr

inductive MscError
  | none
  | shortTransfer
  | stall
  | phaseError
  | commandFailed
  | resetRecoveryRequired
  deriving DecidableEq, Repr

structure MscInstance where
  isAllocated : Bool
  state : MscState
  error : MscError
  interfaceCtx : Option Nat
  bulkInEndpoint : Option Nat
  bulkOutEndpoint : Option Nat
  transfer : Option Nat
  cbw : Nat → UInt8
  csw : Nat → UInt8
  dataBuffer : Buffer
  dataLength : Nat
  activeTag : Nat
  nextTag : Nat
  blockSize : Nat
  capacity : Option Nat
  capacityBuffer : Nat → UInt8
  lun : Nat
  activeOpcode : Nat
  activeDataIn : Bool

def MscInstance.zero : MscInstance :=
  ⟨false, .idle, .none, none, none, none, none, fun _ => 0, fun _ => 0, .none, 0, 0, 0, 0, none, fun _ => 0, 0, 0, false⟩

/-- What the stack does to the outside, and which port takes a step. -/
inductive Record
  | stepped (port : Nat)
  | init
  | start
  | enableInterrupts
  | stop
  | deinit
  | portPower (port : Nat)
  | portReset (port : Nat)
  | portStatus (port : Nat)
  | submit (slot : Nat) (transfer : Transfer)
  | cancel (slot : Nat)
  | keyboardReport (report : List UInt8)
  | mouseReport (report : List UInt8)
  | capacity (pointer blockCount blockSize : Nat)
  deriving DecidableEq

/-- The host controller driver. What it answers may depend on everything it was asked before. -/
structure Hcd where
  init : List Record → Except Error Unit
  start : List Record → Except Error Unit
  enableInterrupts : List Record → Except Error Unit
  portPower : List Record → Nat → Except Error Unit
  portReset : List Record → Nat → Except Error Unit
  getPortStatus : List Record → Nat → Except Error PortStatus
  submitTransfer : List Record → Nat → Transfer → Except Error Unit
  cancelTransfer : List Record → Nat → Except Error Unit

structure Host where
  lifecycleState : LifecycleState
  hasHcd : Bool
  rootPortCount : Nat
  isInitialized : Bool
  isStarted : Bool
  rootPorts : Nat → RootPort
  enumeration : Enumeration
  controlBuffer : Nat → UInt8
  devices : Nat → Device
  interfaces : Nat → Interface
  endpoints : Nat → Endpoint
  transfers : Nat → Transfer
  classRegistrations : List ClassDriver
  hid : Nat → HidInstance
  msc : Nat → MscInstance
  log : List Record

def Host.zero : Host where
  lifecycleState := .created
  hasHcd := false
  rootPortCount := 0
  isInitialized := false
  isStarted := false
  rootPorts _ := .zero
  enumeration := .zero
  controlBuffer _ := 0
  devices _ := .zero
  interfaces _ := .zero
  endpoints _ := .zero
  transfers _ := .zero
  classRegistrations := []
  hid _ := .zero
  msc _ := .zero
  log := []

abbrev HostM := Call Host Error

def updatePort (p : Nat) (f : RootPort → RootPort) : HostM Unit :=
  modify fun h => { h with rootPorts := Function.update h.rootPorts p (f (h.rootPorts p)) }

def updateEnum (f : Enumeration → Enumeration) : HostM Unit := modify fun h => { h with enumeration := f h.enumeration }

def updateDevice (d : Nat) (f : Device → Device) : HostM Unit :=
  modify fun h => { h with devices := Function.update h.devices d (f (h.devices d)) }

def updateInterface (i : Nat) (f : Interface → Interface) : HostM Unit :=
  modify fun h => { h with interfaces := Function.update h.interfaces i (f (h.interfaces i)) }

def updateEndpoint (e : Nat) (f : Endpoint → Endpoint) : HostM Unit :=
  modify fun h => { h with endpoints := Function.update h.endpoints e (f (h.endpoints e)) }

def updateTransfer (t : Nat) (f : Transfer → Transfer) : HostM Unit :=
  modify fun h => { h with transfers := Function.update h.transfers t (f (h.transfers t)) }

def updateHid (k : Nat) (f : HidInstance → HidInstance) : HostM Unit :=
  modify fun h => { h with hid := Function.update h.hid k (f (h.hid k)) }

def updateMsc (k : Nat) (f : MscInstance → MscInstance) : HostM Unit :=
  modify fun h => { h with msc := Function.update h.msc k (f (h.msc k)) }

def note (r : Record) : HostM Unit := modify fun h => { h with log := r :: h.log }

def ask {α : Type} (r : Record) (answer : List Record → Except Error α) : HostM α := do
  let h ← read id
  reject (h.hasHcd = false) .hcdNullPointer
  note r
  finish (answer h.log)

def firstFree (size : Nat) (allocated : Nat → Bool) : Option Nat := (List.range size).find? fun i => !allocated i

def firstWith (size : Nat) (p : Nat → Bool) : Option Nat := (List.range size).find? p

def contextReadyForRuntimeSlots : HostM Unit := do
  let h ← read id
  reject (h.isInitialized = false) .notInitialized

end XSDK.Usbh
