import XSDK.Usbh.MscRuns

/-! The block driver over a USB disk: each call starts one command of the host stack and
polls until the instance is ready, has failed, or the polls are used up. -/
namespace XSDK.Usbmsc

open Library Library.Call Usbh

inductive FsError
  | nullPointer
  | invalidArgument
  | invalidState
  | outOfRange
  | invalidVolume
  | io
  deriving DecidableEq, Repr

structure Adapter where
  maxPollCount : Nat
  sectorCount : Nat
  sectorSize : Nat
  lun : Nat
  isInitialized : Bool
  isMediaPresent : Bool
  deriving DecidableEq, Repr

/-- The driver with the host stack under it. -/
structure Block where
  host : Host
  adapter : Adapter

abbrev BlockM := Call Block FsError

def updateAdapter (f : Adapter → Adapter) : BlockM Unit := modify fun b => { b with adapter := f b.adapter }

/-- A call of the host stack, whose result the driver looks at. -/
def hostCall (m : HostM Unit) : BlockM (Except Usbh.Error Unit) := fun b =>
  (.ok (m b.host).1, { b with host := (m b.host).2 })

/- What goes on in the host stack while the driver polls. -/

/-- What concerns an instance: the end of its transfer, the end of another one, its interface
stops, an interface starts, or the host goes on without it. -/
inductive PollEvent
  | completed (event : TransferEvent) (actualLength : Nat) (bytes : List UInt8)
  | told (t : Nat)
  | stop
  | start (j : Nat)
  | elsewhere (after : Host)

structure Poll where
  events : List PollEvent
  fails : Bool

/-- Nothing of this leads to a caller's memory. -/
structure SilentInstance (x : MscInstance) : Prop where
  data : ∀ pointer, x.dataBuffer ≠ .caller pointer
  capacity : x.capacity = none

def SilentTransfer (y : Transfer) : Prop := y.isSubmitted = true → ∀ pointer, y.data ≠ .caller pointer

/-- What a record writes to the capacity variable at a pointer. -/
def capacityRecord (pointer : Nat) : Record → Option (Nat × Nat)
  | .capacity q n s => if q = pointer then some (n, s) else none
  | _ => none

def Grown (before after : Host) : Prop :=
  ∃ more, after.log = more ++ before.log ∧ ∀ pointer, more.findSome? (capacityRecord pointer) = none

section Polls

variable (c : Config) (hcd : Hcd) (k : Nat)

/-- Every instance is found from its interface, and has its endpoints. -/
structure Standing (h : Host) : Prop where
  up : Up h.rootPortCount h
  seats : ∀ k < c.mscMaxInstances, (h.msc k).isAllocated = true → ∃ i, Seated c k i h
  luns : ∀ k < c.mscMaxInstances, (h.msc k).isAllocated = true → (h.msc k).lun = 0
  counters : ∀ k, (h.msc k).nextTag < 2 ^ 32

/-- Only the instance in slot k and its transfer may lead to a caller's memory. -/
structure Reserved (h : Host) : Prop where
  standing : Standing c h
  instances : ∀ k', k' ≠ k → SilentInstance (h.msc k')
  transfers : ∀ t, (h.msc k).transfer ≠ some t → SilentTransfer (h.transfers t)

/-- The host goes on without the instance and its transfer. -/
structure Beside (h after : Host) : Prop where
  reserved : Reserved c k after
  same : after.msc k = h.msc k
  slot : ∀ t, (h.msc k).transfer = some t → after.transfers t = h.transfers t
  log : Grown h after

def pollStep (h : Host) : PollEvent → Host
  | .completed event n bytes =>
    match (h.msc k).transfer, (h.msc k).interfaceCtx with
    | some t, some i => (mscCompleted c hcd i t event n bytes h).2
    | _, _ => h
  | .told t =>
    match (h.msc k).interfaceCtx with
    | some i => (mscTransferComplete c hcd i t h).2
    | none => h
  | .stop =>
    match (h.msc k).interfaceCtx with
    | some i => (mscStop c hcd i h).2
    | none => h
  | .start j => (mscStart c j h).2
  | .elsewhere after => after

def pollMachine : Machine Host PollEvent Unit where
  allowed h
    | .completed _ _ _ => ∃ t, (h.msc k).transfer = some t ∧ (h.transfers t).isSubmitted = true
    | .told t => (h.msc k).transfer ≠ some t
    | .stop => True
    | .start j => mscInstanceFind c h j = none
    | .elsewhere after => Beside c k h after
  step h event := (pollStep c hcd k h event, ())

def poll (p : Poll) : BlockM Unit := do
  modify fun b => { b with host := (pollMachine c hcd k).play b.host p.events }
  reject (p.fails = true) .io

end Polls

section Driver

variable (c : Config) (hcd : Hcd)

def usbmscInstanceGet (b : Block) : Option Nat :=
  firstWith c.mscMaxInstances fun k => (b.host.msc k).isAllocated && decide ((b.host.msc k).lun = b.adapter.lun)

/-- The driver keeps its pointer to the instance, and looks at it before each poll that is left. -/
def usbmscWaitReady (k : Nat) (polls : Nat → Poll) : Nat → Nat → BlockM Unit
  | 0, _ => fail .io
  | left + 1, pollCount => do
    let x ← read fun b => b.host.msc k
    if x.state = .ready then
      if x.error = .none then pure () else fail .io
    else if x.state = .error ∨ x.state = .resetRecovery then fail .io
    else do
      poll c hcd k (polls pollCount)
      usbmscWaitReady k polls left (pollCount + 1)

variable (pointer : Nat)

/-- What the stack has written to a capacity variable that was zero. -/
def capacityWritten (before after : Host) : Nat × Nat :=
  ((after.log.take (after.log.length - before.log.length)).findSome? (capacityRecord pointer)).getD (0, 0)

def mediaGone : BlockM Unit := updateAdapter fun a => { a with isMediaPresent := false }

def usbmscCapacityRefresh (polls : Nat → Poll) : BlockM Unit := do
  let b ← read id
  match usbmscInstanceGet c b with
  | none => do
    mediaGone
    fail .io
  | some k => do
    let status ← hostCall (mscReadCapacity c hcd b.adapter.lun pointer)
    match status with
    | .error _ => do
      mediaGone
      fail .io
    | .ok () => do
      onError (usbmscWaitReady c hcd k polls b.adapter.maxPollCount 0) fun _ => mediaGone
      let capacity ← read fun b' => capacityWritten pointer b.host b'.host
      if capacity.2 ≠ 512 ∨ capacity.1 = 0 then do
        mediaGone
        fail .invalidVolume
      else
        updateAdapter fun a => { a with sectorCount := capacity.1, sectorSize := capacity.2, isMediaPresent := true }

def usbmscValidateIo (a : Adapter) (lba sectorCount : Nat) : Except FsError Unit :=
  if a.isInitialized = false ∨ a.isMediaPresent = false then .error .invalidState
  else if sectorCount = 0 then .error .invalidArgument
  else if 65535 < sectorCount then .error .invalidArgument
  else if a.sectorCount < lba ∨ a.sectorCount - lba < sectorCount then .error .outOfRange
  else .ok ()

def usbmscContextIsValid (a : Adapter) : Bool := decide (0 < a.maxPollCount ∧ a.lun ≤ 15)

def usbmscInit (polls : Nat → Poll) : BlockM Unit := do
  let b ← read id
  reject (usbmscContextIsValid b.adapter = false) .invalidArgument
  updateAdapter fun a => { a with isInitialized := false, isMediaPresent := false, sectorCount := 0, sectorSize := 0 }
  usbmscCapacityRefresh c hcd pointer polls
  updateAdapter fun a => { a with isInitialized := true }

/-- A read and a write differ in the command they start. -/
def usbmscSectors (start : Nat → HostM Unit) (lba : Nat) (buffer : Option Nat)
    (sectorCount : Nat) (polls : Nat → Poll) :
    BlockM Unit := do
  reject (buffer = none) .nullPointer
  let b ← read id
  finish (usbmscValidateIo b.adapter lba sectorCount)
  match usbmscInstanceGet c b with
  | none => do
    mediaGone
    fail .io
  | some k => do
    let status ← hostCall (start b.adapter.lun)
    match status with
    | .error _ => fail .io
    | .ok () => usbmscWaitReady c hcd k polls b.adapter.maxPollCount 0

def usbmscReadSector (lba : Nat) (buffer : Option Nat) (sectorCount : Nat) (polls : Nat → Poll) : BlockM Unit :=
  usbmscSectors c hcd (fun lun => mscReadBlocks c hcd lun lba sectorCount (callerBuffer buffer) (sectorCount * 512)) lba buffer
    sectorCount polls

def usbmscWriteSector (lba : Nat) (buffer : Option Nat) (sectorCount : Nat) (polls : Nat → Poll) : BlockM Unit :=
  usbmscSectors c hcd (fun lun => mscWriteBlocks c hcd lun lba sectorCount (callerBuffer buffer) (sectorCount * 512)) lba buffer
    sectorCount polls

end Driver

end XSDK.Usbmsc
