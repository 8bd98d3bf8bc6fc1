import XSDK.Library.Chain
import XSDK.Library.Runs
import XSDK.Usbd.Defs

/-! Class registration: the allocators of interface, endpoint and string numbers, the roll-back
of a registration that failed, and the list of registered classes. -/
namespace XSDK.Usbd

open Library Library.Call
open Function (update)

/-- The calls that an init_instance can make. -/
inductive ClassCall
  | allocateInterface (ctx : Option ClassRef)
  | allocateEndpoint (ctx : Option ClassRef) (direction : UInt8)
  | allocateString (ctx : Option ClassRef)
  | setInterfaceString (ctx : Option ClassRef) (name : Option Text)

/-- An init_instance: it ends with a result, or makes a call and goes on as the reply says. -/
inductive Init (α : Type) : Type
  | done (result : Except Error α) : Init α
  | call (op : ClassCall) (next : Except Error Nat → Init α) : Init α

/-- What registration reads of a class driver. -/
structure Driver where
  initInstance : Option (ClassRef → Init Unit)
  hasBuildDescriptor : Bool

structure ClassContext where
  next : Option ClassRef
  driver : Option Driver
  hasDevice : Bool
  firstInterface : Nat
  epMps : Nat
  interfaceString : Option Text
  interfaceStringIndex : Nat

def ClassContext.zero : ClassContext := ⟨none, none, false, 0, 0, none, 0⟩

def ClassContext.core (x : ClassContext) : ClassContext := { x with interfaceString := none, interfaceStringIndex := 0 }

/-- The device context's part in registration. -/
@[ext]
structure Registry where
  isStarted : Bool
  lifecycleState : LifecycleState
  classListHead : Option ClassRef
  classListTail : Option ClassRef
  registeringClass : Option ClassRef
  interfaceToClass : Nat → Option ClassRef
  endpointToClass : Nat → Option ClassRef
  stringToClass : Nat → Option ClassRef
  nextInterface : Nat
  nextInEp : Nat
  nextOutEp : Nat
  nextStringIndex : Nat

def Registry.init : Registry :=
  ⟨false, .initialized, none, none, none, fun _ => none, fun _ => none, fun _ => none, 0, 0x81, 0x01, serialStringIndex + 1⟩

/-- What the allocators hand out. -/
inductive Number
  | interface (n : Nat)
  | endpoint (address : Nat)
  | string (index : Nat)
  deriving DecidableEq

/-- The device, the class contexts, and the numbers that stand handed out, with their classes.
The last is for the proofs, no function reads it. -/
structure Stack where
  device : Registry
  contexts : ClassRef → ClassContext
  granted : List (Number × ClassRef)

def Stack.init : Stack := ⟨.init, fun _ => .zero, []⟩

namespace Stack

def setContext (s : Stack) (c : ClassRef) (x : ClassContext) : Stack := { s with contexts := update s.contexts c x }
def next (s : Stack) (c : ClassRef) : Option ClassRef := (s.contexts c).next

def rename (s : Stack) (c : ClassRef) (name : Option Text) : Stack :=
  s.setContext c { s.contexts c with interfaceString := name }

/- A counter is eight bits wide. -/

def handInterface (n : Nat) (c : ClassRef) (s : Stack) : Stack where
  device := { s.device with
    nextInterface := (n + 1) % 256
    interfaceToClass := update s.device.interfaceToClass n (some c) }
  contexts := s.contexts
  granted := (.interface n, c) :: s.granted

def handInEp (a : Nat) (c : ClassRef) (s : Stack) : Stack where
  device := { s.device with
    nextInEp := (a + 1) % 256
    endpointToClass := update s.device.endpointToClass (endpointMapIndex a) (some c) }
  contexts := s.contexts
  granted := (.endpoint a, c) :: s.granted

def handOutEp (a : Nat) (c : ClassRef) (s : Stack) : Stack where
  device := { s.device with
    nextOutEp := (a + 1) % 256
    endpointToClass := update s.device.endpointToClass (endpointMapIndex a) (some c) }
  contexts := s.contexts
  granted := (.endpoint a, c) :: s.granted

def handString (n : Nat) (c : ClassRef) (s : Stack) : Stack where
  device := { s.device with
    nextStringIndex := (n + 1) % 256
    stringToClass := update s.device.stringToClass n (some c) }
  contexts := s.contexts
  granted := (.string n, c) :: s.granted

end Stack

variable (ctx : Option ClassRef)

def nonNull : Call Stack Error ClassRef :=
  match ctx with
  | some c => pure c
  | none => fail .nullPointer

def registering : Call Stack Error ClassRef := do
  match ← read (·.device.registeringClass) with
  | some c => pure c
  | none => fail .invalidConfiguration

/-- What the three allocators share: the number goes to the class being registered. -/
def allocate (next : Registry → Nat) (exhausted : Nat → Bool)
    (hand : Nat → ClassRef → Stack → Stack) : Call Stack Error Nat := do
  let c ← nonNull ctx
  let hasDevice ← read fun s => (s.contexts c).hasDevice
  reject (hasDevice = false) .nullPointer
  let owner ← registering
  let n ← read fun s => next s.device
  reject (exhausted n = true) .resourceExhausted
  modify (hand n owner)
  pure n

def endpointExhausted (a : Nat) : Bool := a &&& 0x0F == 0 || decide (maxEndpointMapEntries ≤ endpointMapIndex a)

def classAllocateInterface : Call Stack Error Nat :=
  allocate ctx (·.nextInterface) (maxInterfaceCount ≤ ·) Stack.handInterface

def classAllocateEndpoint (direction : UInt8) : Call Stack Error Nat :=
  if direction &&& 0x80 ≠ 0 then
    allocate ctx (·.nextInEp) endpointExhausted Stack.handInEp
  else
    allocate ctx (·.nextOutEp) endpointExhausted Stack.handOutEp

def classAllocateString : Call Stack Error Nat :=
  allocate ctx (·.nextStringIndex) (maxStringMapEntries ≤ ·) Stack.handString

def classSetInterfaceString (name : Option Text) : Call Stack Error Unit := do
  let c ← nonNull ctx
  modify fun s => s.rename c name
  let index ← read fun s => (s.contexts c).interfaceStringIndex
  onlyIf (name ≠ none ∧ index = 0) do
    let hasDevice ← read fun s => (s.contexts c).hasDevice
    let d ← read (·.device)
    reject (hasDevice = false ∨ d.isStarted = true) .invalidConfiguration
    reject (maxStringMapEntries ≤ d.nextStringIndex) .resourceExhausted
    modify (Stack.handString d.nextStringIndex c)
    modify fun s => s.setContext c { s.contexts c with interfaceStringIndex := d.nextStringIndex }

def ClassCall.perform : ClassCall → Call Stack Error Nat
  | .allocateInterface ctx => classAllocateInterface ctx
  | .allocateEndpoint ctx direction => classAllocateEndpoint ctx direction
  | .allocateString ctx => classAllocateString ctx
  | .setInterfaceString ctx name => classSetInterfaceString ctx name >>= fun _ => pure 0

def Init.run {α : Type} : Init α → Call Stack Error α
  | .done result => finish result
  | .call op next => attempt op.perform >>= fun reply => (next reply).run

structure Snapshot where
  interface : Nat
  inEp : Nat
  outEp : Nat
  stringIndex : Nat

def classResourceSnapshotGet (d : Registry) : Snapshot := ⟨d.nextInterface, d.nextInEp, d.nextOutEp, d.nextStringIndex⟩

def loop (first bound : Nat) : List Nat := List.range' first (bound - first)

def clear (map : Nat → Option ClassRef) (entries : List Nat) : Nat → Option ClassRef :=
  entries.foldl (fun map i => update map i none) map

def endpointEntries (first bound : Nat) : List Nat :=
  ((loop first bound).map endpointMapIndex).filter (· < maxEndpointMapEntries)

def classResourceRollback (start : Snapshot) (d : Registry) : Registry := { d with
  interfaceToClass := clear d.interfaceToClass (loop start.interface (min d.nextInterface maxInterfaceCount))
  endpointToClass :=
    clear (clear d.endpointToClass (endpointEntries start.inEp d.nextInEp)) (endpointEntries start.outEp d.nextOutEp)
  stringToClass := clear d.stringToClass (loop start.stringIndex (min d.nextStringIndex maxStringMapEntries))
  nextInterface := start.interface
  nextInEp := start.inEp
  nextOutEp := start.outEp
  nextStringIndex := start.stringIndex }

/-- Nothing is registered without a device that has not started and both of the driver's members. -/
def classRegisterConfigValidate (driver : Option Driver) :
    Call Stack Error (ClassRef × Driver × (ClassRef → Init Unit)) := do
  match ctx, driver with
  | some c, some driver =>
    let isStarted ← read (·.device.isStarted)
    reject (isStarted = true) .alreadyInitialized
    match driver.initInstance, driver.hasBuildDescriptor with
    | some initInstance, true => pure (c, driver, initInstance)
    | _, _ => fail .nullPointer
  | _, _ => fail .nullPointer

namespace Stack

def setRegistering (c : Option ClassRef) (s : Stack) : Stack :=
  { s with device := { s.device with registeringClass := c } }

variable (c : ClassRef)

def classContextPrepareForRegistration (driver : Driver) (s : Stack) : Stack :=
  s.setContext c { s.contexts c with
    driver := some driver
    hasDevice := true
    next := none
    firstInterface := s.device.nextInterface }

def classContextClearFailedRegistration (s : Stack) : Stack :=
  s.setContext c { s.contexts c with
    driver := none
    hasDevice := false
    next := none
    firstInterface := 0 }

def classRegisterListAppend (s : Stack) : Stack :=
  match s.device.classListTail with
  | none => { s with device := { s.device with classListHead := some c, classListTail := some c } }
  | some tail =>
    let linked := s.setContext tail { s.contexts tail with next := some c }
    { linked with device := { s.device with classListTail := some c } }

def classRegisterLifecycleMark (s : Stack) : Stack :=
  if s.device.lifecycleState = .initialized then
    { s with device := { s.device with lifecycleState := .classesRegistered } }
  else s

/-- The numbers that this registration was given are taken back. -/
def rollback (start : Snapshot) (granted : List (Number × ClassRef)) (s : Stack) : Stack where
  device := classResourceRollback start s.device
  contexts := s.contexts
  granted := granted

end Stack

def classRegister (driver : Option Driver) : Call Stack Error Unit := do
  let (c, driver, initInstance) ← classRegisterConfigValidate ctx driver
  let start ← read fun s => classResourceSnapshotGet s.device
  let granted ← read (·.granted)
  modify (Stack.classContextPrepareForRegistration c driver)
  modify (Stack.setRegistering (some c))
  let status ← attempt (initInstance c).run
  modify (Stack.setRegistering none)
  match status with
  | .error e =>
    modify (Stack.rollback start granted)
    modify (Stack.classContextClearFailedRegistration c)
    fail e
  | .ok () =>
    modify (Stack.classRegisterListAppend c)
    modify Stack.classRegisterLifecycleMark

end XSDK.Usbd
