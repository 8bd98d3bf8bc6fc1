import XSDK.Usbd.Defs

/-! The device core's state while it runs, and what surrounds it: the device controller driver and
the registered classes, whose own state the core never reads. -/
namespace XSDK.Usbd

open Library Library.Call

inductive DcdCall
  | epInit (ep : UInt8) (type : UInt8) (mps : Nat)
  | epReceive (ep : UInt8) (length : Nat)
  | epSend (ep : UInt8) (data : Bytes) (zlp : Bool)
  | epStall (ep : UInt8)
  | epClearStall (ep : UInt8)
  | setAddress (address : UInt8)
  | setRemoteWakeup (enable : Bool)
  | setTestMode (mode : UInt8)
  deriving DecidableEq

/-- The events that a class driver hears about. -/
inductive BusEvent
  | sof
  | reset
  | connect
  | suspend
  | resume
  | disconnect
  | speedChange
  | linkStateChange
  deriving DecidableEq

/-- A pointer to bytes, and how many of them to send. -/
structure Response where
  data : Bytes
  length : Nat

def Response.empty : Response := ⟨[], 0⟩

/-- What surrounds the core, with a state of its own: the routing that registration left, the
controller driver's operations, the classes' callbacks (none where the driver has none), the shared
control buffer, and the strings and descriptors that never change. -/
structure Env (σ : Type) where
  classList : List ClassRef
  interfaceToClass : Nat → Option ClassRef
  endpointToClass : Nat → Option ClassRef
  stringToClass : Nat → Option ClassRef
  nextInterface : Nat
  dcd : DcdCall → Call σ Error Unit
  getSpeed : Call σ Error Speed
  epIsStalled : UInt8 → σ → Bool
  controlBuffer : Nat → σ → Bytes
  buildDescriptor : ClassRef → Speed → σ → Bytes × σ
  busEvent : ClassRef → BusEvent → σ → σ
  controlIn : ClassRef → Option (SetupRequest → Call σ Error Response)
  controlOut : ClassRef → Option (SetupRequest → Bytes → Call σ Error Unit)
  transferComplete : ClassRef → Option (SetupRequest → Call σ Error Unit)
  dataReceived : ClassRef → Option (UInt8 → Bytes → Call σ Error Unit)
  transmitComplete : ClassRef → Option (UInt8 → Call σ Error Unit)
  interfaceString : ClassRef → σ → Option Text
  vendorString : Text
  productString : Text
  serialString : Text
  deviceDescriptor : Bytes
  deviceQualifierDescriptor : Bytes
  mos2Descriptor : Bytes

/-- What the current control transfer waits for. -/
inductive ControlPhase
  | idle
  | dataIn
  | dataOut
  | outStatus
  deriving DecidableEq, Repr

structure Device where
  speed : Speed
  request : SetupRequest
  requestPhase : ControlPhase
  controlRequestClass : Option ClassRef
  lifecycleState : LifecycleState
  configurationValue : UInt8
  addressValue : UInt8
  isConfigured : Bool
  isAddressed : Bool
  isRemoteWakeEnabled : Bool
  isSelfPowered : Bool
  usb3SystemExitLatency : Bytes
  usb3IsochDelay : UInt16
  configurationDescriptor : Bytes
  bosDescriptor : Bytes
  bosBuiltForSpeed : Option Speed
  mos2Built : Bool

def Device.started (speed : Speed) : Device where
  speed := speed
  request := ⟨0, 0, 0, 0, 0⟩
  requestPhase := .idle
  controlRequestClass := none
  lifecycleState := .started
  configurationValue := 0
  addressValue := 0
  isConfigured := false
  isAddressed := false
  isRemoteWakeEnabled := false
  isSelfPowered := false
  usb3SystemExitLatency := List.replicate 6 0
  usb3IsochDelay := 0
  configurationDescriptor := []
  bosDescriptor := []
  bosBuiltForSpeed := none
  mos2Built := false

/-- What a step does outside: a call of the controller driver with its result, a class that
accepted a control request, and a call of a class's control_transfer_complete. -/
inductive Outgoing
  | dcd (call : DcdCall) (result : Except Error Unit)
  | handled (c : ClassRef)
  | complete (c : ClassRef)

structure System (σ : Type) where
  device : Device
  outside : σ
  log : List Outgoing

abbrev Core (σ : Type) : Type → Type := Call (System σ) Error

section Core

variable {σ α : Type}

def onDevice (f : Device → Device) : Core σ Unit := modify fun s => { s with device := f s.device }

def note (entry : Outgoing) : Core σ Unit := modify fun s => { s with log := s.log ++ [entry] }

/-- A call of the classes or of the controller driver: it cannot touch the core. -/
def outside (m : Call σ Error α) : Core σ α := zoom System.outside (fun o s => { s with outside := o }) m

def ask (e : Env σ) (call : DcdCall) : Core σ Unit := do
  let result ← attempt (outside (e.dcd call))
  note (.dcd call result)
  finish result

end Core

end XSDK.Usbd
