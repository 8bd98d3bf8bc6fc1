import XSDK.Library.Runs

/-! The logic analyser's core, the memory it shares with the PRU, and the steps of both. -/
namespace XSDK.Logic

open Library
open Function (update)

abbrev Bytes : Type := List UInt8

inductive Error
  | invalidArgument
  | invalidState
  | overrun
  | txFailed
  deriving DecidableEq, Repr

def maxSampleRate : UInt32 := 333000000
def minSampleRate : UInt32 := 100000
def maxChannels : Nat := 8

inductive PruCmd
  | idle
  | arm
  | halt
  deriving DecidableEq, Repr

inductive PruStatus
  | ready
  | running
  | done
  | overrun
  deriving DecidableEq, Repr

inductive State
  | idle
  | armed
  | triggered
  | capturing
  | done
  | error
  deriving DecidableEq, Repr

inductive TriggerMode
  | none
  | level
  | edge
  deriving DecidableEq, Repr

def triggerEdgeRising : UInt32 := 0

/-! ### The memory shared with the PRU -/

structure PruControl where
  cmd : PruCmd
  status : PruStatus
  triggerChannel : Nat
  triggerEdge : UInt32
  sampleCount : UInt32
  samplesCaptured : Nat
  overrunCount : UInt32

structure Pru where
  control : PruControl
  ring : Nat → UInt8
  ringBytes : Nat
  readOffset : Nat

def Pru.init (ring : Nat → UInt8) (ringBytes : Nat) : Pru where
  control := ⟨.idle, .ready, 0, 0, 0, 0, 0⟩
  ring := ring
  ringBytes := ringBytes
  readOffset := 0

variable (p : Pru)

def pruArm (triggerChannel : Nat) (triggerEdge sampleCount : UInt32) : Except Error Unit × Pru :=
  if maxChannels ≤ triggerChannel then (.error .invalidArgument, p)
  else (.ok (), { p with
    readOffset := 0
    control := { p.control with
      triggerChannel := triggerChannel
      triggerEdge := triggerEdge
      sampleCount := sampleCount
      samplesCaptured := 0
      overrunCount := 0
      cmd := .arm } })

def pruHalt : Pru := { p with control := { p.control with cmd := .halt } }

def pruAvailableBytes : Nat :=
  if p.control.samplesCaptured ≤ p.readOffset then 0 else p.control.samplesCaptured - p.readOffset

def pruReadCount (maxBytes : Nat) : Nat :=
  let toCopy := if pruAvailableBytes p < maxBytes then pruAvailableBytes p else maxBytes
  if p.ringBytes < p.readOffset + toCopy then p.ringBytes - p.readOffset else toCopy

/-- The samples that came since the last read go to a place of the destination. -/
def pruReadSamples (dest : Nat → UInt8) (place maxBytes : Nat) : Nat × (Nat → UInt8) × Pru :=
  let count := pruReadCount p maxBytes
  (count, fun k => if place ≤ k ∧ k < place + count then p.ring (p.readOffset + (k - place)) else dest k,
    { p with readOffset := p.readOffset + count })

/-! ### The transport -/

variable (data : Nat → UInt8)

def swap (left right : Nat) :
    Nat → UInt8 := update (update data left (data right)) right (data left)

/-- The loop that swaps the ends of a buffer inwards; it takes at most as many rounds as there are bytes. -/
def reverseLoop : Nat → (Nat → UInt8) → Nat → Nat → Nat → UInt8
  | 0, data, _, _ => data
  | fuel + 1, data, left, right =>
    if left < right then reverseLoop fuel (swap data left right) (left + 1) (right - 1) else data

def reverseBytes (length : Nat) : Nat → UInt8 :=
  if length ≤ 1 then data else reverseLoop length data 0 (length - 1)

def bytesOf (length : Nat) : Bytes := (List.range length).map data

structure Transport where
  hasRunRequest : Bool
  hasResetRequest : Bool

def Transport.clearRequests (_ : Transport) : Transport := ⟨false, false⟩

/-! ### The core -/

structure Config where
  sampleRate : UInt32
  sampleCount : UInt32
  channelMask : UInt32
  triggerMode : TriggerMode
  triggerMask : UInt32
  triggerValue : UInt32
  triggerChannel : UInt32
  triggerEdge : UInt32

def clampSampleRate (rate : UInt32) : UInt32 :=
  if maxSampleRate < rate then maxSampleRate else if rate < minSampleRate then minSampleRate else rate

def mapTriggerChannel (triggerMask : UInt32) : Nat :=
  ((List.range maxChannels).find? fun i => triggerMask &&& (1 <<< UInt32.ofNat i) ≠ 0).getD 0

structure Core where
  state : State
  config : Config
  sampleBuffer : Nat → UInt8
  sampleBufferBytes : Nat
  samplesCaptured : Nat

/-- The core, the PRU's memory and the transport, with what happened on either side: how many
captures were armed, the one whose CMD_ARM the PRU saw last and whether it is still at it, the
samples stored for each, the one it last set DONE for, and, since the last arming, the bytes that
were sent and the attempts that failed. -/
structure System where
  core : Core
  pru : Pru
  transport : Transport
  armings : Nat
  seen : Nat
  storing : Bool
  captures : Nat → Bytes
  doneFor : Nat
  sent : Bytes
  failed : Nat

def System.init (config : Config) (ring : Nat → UInt8) (ringBytes : Nat) (buffer : Nat → UInt8)
    (bufferBytes : Nat) : System where
  core := ⟨.idle, config, buffer, bufferBytes, 0⟩
  pru := .init ring ringBytes
  transport := ⟨false, false⟩
  armings := 0
  seen := 0
  storing := false
  captures := fun _ => []
  doneFor := 0
  sent := []
  failed := 0

variable (s : System)

def pollArmed : Except Error Unit × System :=
  match s.pru.control.status with
  | .overrun => (.error .overrun, { s with core := { s.core with state := .error } })
  | .done => (.ok (), { s with core := { s.core with state := .done } })
  | _ => (.ok (), s)

variable (tx : Except Error Unit)

/-- Send the bytes in reverse order; nothing is not sent at all. -/
def transportSendSamples : Except Error Unit × System :=
  if s.core.samplesCaptured = 0 then (.ok (), s)
  else
    let s := { s with core := { s.core with sampleBuffer := reverseBytes s.core.sampleBuffer s.core.samplesCaptured } }
    match tx with
    | .ok () => (.ok (), { s with sent := s.sent ++ bytesOf s.core.sampleBuffer s.core.samplesCaptured })
    | .error code => (.error code, { s with failed := s.failed + 1 })

/-- The samples that are new are copied behind those that were copied before. -/
def drain : System :=
  match pruReadSamples s.pru s.core.sampleBuffer s.core.samplesCaptured
    (s.core.sampleBufferBytes - s.core.samplesCaptured) with
  | (bytesRead, buffer, pru) =>
    { s with
      pru := pru
      core := { s.core with sampleBuffer := buffer, samplesCaptured := s.core.samplesCaptured + bytesRead } }

def pollDone : Except Error Unit × System :=
  match transportSendSamples (drain s) tx with
  | (.error code, s) => (.error code, s)
  | (.ok (), s) => (.ok (), { s with core := { s.core with state := .idle, samplesCaptured := 0 } })

def poll : Except Error Unit × System :=
  match s.core.state with
  | .idle => (.ok (), s)
  | .armed => pollArmed s
  | .triggered => pollArmed s
  | .capturing => pollArmed s
  | .done => pollDone s tx
  | .error => (.error .invalidState, { s with pru := pruHalt s.pru })

def triggerOf (config : Config) : Nat × UInt32 :=
  if config.triggerMode ≠ .none ∧ config.triggerMask ≠ 0 then (mapTriggerChannel config.triggerMask, config.triggerEdge)
  else (0, triggerEdgeRising)

def arm (config : Config) : Except Error Unit × System :=
  if s.core.state ≠ .idle then (.error .invalidState, s)
  else
    let core := { s.core with config := { config with sampleRate := clampSampleRate config.sampleRate }, samplesCaptured := 0 }
    match pruArm s.pru (triggerOf config).1 (triggerOf config).2 config.sampleCount with
    | (.error code, pru) => (.error code, { s with core := core, pru := pru })
    | (.ok (), pru) => (.ok (), { s with
        core := { core with state := .armed }
        pru := pru
        transport := s.transport.clearRequests
        armings := s.armings + 1
        sent := []
        failed := 0 })

def abort : System := { s with
  pru := pruHalt s.pru
  transport := s.transport.clearRequests
  core := { s.core with state := .idle, samplesCaptured := 0 } }

/-! ### The steps of both sides -/

inductive Input
  | arm (config : Config)
  | abort
  | poll (tx : Except Error Unit)
  /-- The PRU sees CMD_ARM and begins to capture. -/
  | pruSee
  | pruStore (sample : UInt8)
  | pruDone
  /-- The PRU sets another status than DONE. -/
  | pruSet (status : PruStatus)

/-- A sample that does not fit the ring is counted only. -/
def System.store (sample : UInt8) : System :=
  let captured := s.captures s.seen
  { s with
    captures := update s.captures s.seen (captured ++ [sample])
    pru := { s.pru with
      ring := if captured.length < s.pru.ringBytes then update s.pru.ring captured.length sample else s.pru.ring
      control := { s.pru.control with samplesCaptured := captured.length + 1 } } }

def System.step : Input → System × Except Error Unit
  | .arm config => ((arm s config).2, (arm s config).1)
  | .abort => (abort s, .ok ())
  | .poll tx => ((poll s tx).2, (poll s tx).1)
  | .pruSee => ({ s with
      seen := s.armings
      storing := true
      pru := { s.pru with control := { s.pru.control with status := .running, samplesCaptured := 0 } } }, .ok ())
  | .pruStore sample => (s.store sample, .ok ())
  | .pruDone => ({ s with
      storing := false
      doneFor := s.seen
      pru := { s.pru with control := { s.pru.control with status := .done } } }, .ok ())
  | .pruSet status => ({ s with pru := { s.pru with control := { s.pru.control with status := status } } }, .ok ())

/-- The PRU sees each CMD_ARM once, and sets DONE only for a capture it has begun. -/
def System.allowed : Input → Prop
  | .arm _ => True
  | .abort => True
  | .poll _ => True
  | .pruSee => s.pru.control.cmd = .arm ∧ s.seen ≠ s.armings
  | .pruStore _ => s.storing = true
  | .pruDone => s.storing = true
  | .pruSet status => status ≠ .done

def captureMachine : Machine System Input (Except Error Unit) where
  allowed := System.allowed
  step := System.step

end XSDK.Logic
