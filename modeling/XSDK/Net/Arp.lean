import Mathlib.Data.Fin.VecNotation
import XSDK.Net.Defs

/-! Packet buffers, the Internet checksum and the Ethernet layer on its way out. -/
namespace XSDK.Net

open Library Prog

variable (cfg : Config) (env : Env)

namespace PacketBuffer

variable (p : PacketBuffer)

def data (k : Nat) : UInt8 := p.buffer (p.dataOffset + k)

def bytes : List UInt8 := (List.range p.dataLength).map p.data

def write (k : Nat) (bytes : List UInt8) : PacketBuffer :=
  let start := p.dataOffset + k
  { p with buffer := fun j => if start ≤ j ∧ j < start + bytes.length then bytes.getD (j - start) 0 else p.buffer j }

end PacketBuffer

variable (d : Nat → UInt8) (k : Nat)

def be16 : Nat := (d k).toNat * 256 + (d (k + 1)).toNat
def be32 : Nat := be16 d k * 65536 + be16 d (k + 2)

def be16Bytes (x : Nat) : List UInt8 := [UInt8.ofNat (x / 256), UInt8.ofNat x]
def be32Bytes (x : Nat) : List UInt8 := be16Bytes (x / 65536) ++ be16Bytes x

def addrAt : Addr := fun i => d (k + i)
def macAt : Mac := fun i => d (k + i)

/- Packet pool. -/

def packetAlloc : StackM Nat := do
  let net ← read id
  reject (net.isInitialized = false) .invalidState
  match (List.range cfg.packetPoolSize).find? fun b => !(net.packetPool b).isInUse with
  | none => fail .noPacketBuffer
  | some b =>
    updatePacket b fun p => { p with isInUse := true, dataOffset := 0, dataLength := 0, flags := 0 }
    return b

def packetRelease (b : Nat) : StackM Unit := do
  let net ← read id
  reject (net.isInitialized = false) .invalidState
  reject (¬b < cfg.packetPoolSize) .invalidArgument
  reject ((net.packetPool b).isInUse = false) .invalidState
  updatePacket b fun p => { p with isInUse := false }

def packetSetLength (b length : Nat) : StackM Unit := do
  let p ← read fun net => net.packetPool b
  reject (p.capacity < u32 (p.dataOffset + length)) .invalidLength
  updatePacket b fun p => { p with dataLength := length }

def packetPush (b size : Nat) : StackM Unit := do
  let p ← read fun net => net.packetPool b
  reject (p.dataOffset < size) .bufferTooSmall
  updatePacket b fun p => { p with dataOffset := p.dataOffset - size, dataLength := u32 (p.dataLength + size) }

def packetPull (b size : Nat) : StackM Unit := do
  let p ← read fun net => net.packetPool b
  reject (p.dataLength < size) .invalidLength
  updatePacket b fun p => { p with dataOffset := u32 (p.dataOffset + size), dataLength := p.dataLength - size }

def writeData (b k : Nat) (bytes : List UInt8) : StackM Unit := updatePacket b fun p => p.write k bytes

/- Checksum. -/

/-- The words of a region added to a running sum; an odd last byte is a high byte. -/
def sumWords (d : Nat → UInt8) : Nat → Nat → Nat → Nat
  | k, len + 2, sum => sumWords d (k + 2) len (u32 (sum + be16 d k))
  | k, 1, sum => u32 (sum + (d k).toNat * 256)
  | _, 0, sum => sum

/-- Fold the carries back in until the sum fits 16 bits. A 32-bit sum needs two rounds. -/
def foldCarries : Nat → Nat → Nat
  | 0, sum => sum
  | fuel + 1, sum => if sum / 65536 = 0 then sum else foldCarries fuel (sum % 65536 + sum / 65536)

def complement16 (x : Nat) : Nat := 65535 - x

def checksumCalculate (length : Nat) : Nat :=
  complement16 (foldCarries 3 (sumWords d 0 length 0))

def addrSum (a : Addr) : Nat := ((a 0).toNat * 256 + (a 1).toNat) + ((a 2).toNat * 256 + (a 3).toNat)

def checksumCalculatePseudo (length : Nat) (src dest : Addr) (protocol protoLen : Nat) : Nat :=
  complement16 (foldCarries 3 (sumWords d 0 length (addrSum src + addrSum dest + protocol + protoLen)))

/- Ethernet. -/

def broadcastMac : Mac := fun _ => 0xFF

def ethernetIsBroadcast (mac : Mac) : Bool := decide (mac = broadcastMac)
def ethernetIsMulticast (mac : Mac) : Bool := decide (mac 0 &&& 0x01 ≠ 0)

def ethernetHeader (dest src : Mac) (ethertype : Nat) : List UInt8 :=
  List.ofFn dest ++ List.ofFn src ++ be16Bytes ethertype

/-- The driver gets the active bytes; the result is the driver's. -/
def transmit (i b : Nat) : StackM (Except Error Unit) := do
  let net ← read id
  let sent := ⟨i, (net.packetPool b).bytes, (net.packetPool b).flags⟩ :: net.transmitted
  modify fun net => { net with transmitted := sent }
  return env.transmit sent

/-- Zeros up to the 46 bytes of a minimum payload. -/
def ethernetPad (b : Nat) : StackM Unit := do
  let p ← read fun net => net.packetPool b
  if p.dataLength < 46 then
    reject (p.capacity < u32 (p.dataOffset + 46)) .bufferTooSmall
    writeData b p.dataLength (List.replicate (46 - p.dataLength) 0)
    packetSetLength b 46
  else pure ()

def ethernetBuild (i b : Nat) (dest : Mac) (ethertype : Nat) : StackM Unit := do
  let net ← read id
  reject ((net.packetPool b).dataLength < ethernetHeaderSize) .bufferTooSmall
  writeData b 0 (ethernetHeader dest (net.interfaces i).macAddr ethertype)

/-- Every way out releases the packet: the driver has copied it or never got it. -/
def ethernetTx (i b : Nat) (dest : Mac) (ethertype : Nat) : StackM Unit := do
  let frame := do
    let interface ← read fun net => net.interfaces i
    reject (interface.isUp = false) .linkDown
    ethernetPad b
    packetPush b ethernetHeaderSize
    ethernetBuild i b dest ethertype
  onError frame (packetRelease cfg b)
  let result ← transmit env i b
  ignore (packetRelease cfg b)
  finish result

end XSDK.Net

/-! The ARP cache of an interface. An entry waiting for a reply may hold one parked packet. -/
namespace XSDK.Net

open Library Prog

variable (cfg : Config) (env : Env)

def arpOpRequest : Nat := 1
def arpOpReply : Nat := 2

def ArpEntry.zero : ArpEntry where
  ipAddr := zeroAddr
  macAddr := zeroMac
  state := .free
  timeoutMs := 0
  retryMs := 0
  retriesLeft := 0
  needsRetransmit := false
  pendingPacket := none

def parkedPackets (net : Stack) (i : Nat) : List Nat :=
  (List.range cfg.arpCacheSize).filterMap fun j => (net.entry i j).pendingPacket

variable (i : Nat)

/-- Every entry is cleared; a parked packet is overwritten and stays in use. -/
def arpCacheInit : StackM Unit := do
  modify fun net => { net with overwritten := parkedPackets cfg net i ++ net.overwritten }
  updateInterface i fun interface =>
    { interface with arpCache := fun j => if j < cfg.arpCacheSize then ArpEntry.zero else interface.arpCache j }

def arpFind (net : Stack) (i : Nat) (p : ArpEntry → Bool) : Option Nat :=
  (List.range cfg.arpCacheSize).find? fun j => p (net.entry i j)

def arpCacheQuery (net : Stack) (i : Nat) (ipAddr : Addr) : Option Mac :=
  (arpFind cfg net i fun e => decide (e.state = .resolved ∧ e.ipAddr = ipAddr)).map fun j => (net.entry i j).macAddr

/-- The entry in a state whose deadline is the nearest, if one is nearer than the clock's range. -/
def arpOldest (net : Stack) (i : Nat) (state : ArpState) (deadline : ArpEntry → Nat) : Option Nat :=
  ((List.range cfg.arpCacheSize).foldl
    (fun best j =>
      let left := remaining (deadline (net.entry i j)) net.systemTicks
      if (net.entry i j).state = state ∧ left < best.1 then (left, some j) else best)
    ((0x7FFFFFFF : Int), none)).2

def releaseParked (i j : Nat) : StackM Unit := do
  let entry ← read fun net => net.entry i j
  match entry.pendingPacket with
  | none => pure ()
  | some b =>
    ignore (packetRelease cfg b)
    updateEntry i j fun entry => { entry with pendingPacket := none }

def arpEvict (i j : Nat) : StackM Unit := do
  releaseParked cfg i j
  updateEntry i j fun entry => { entry with needsRetransmit := false, state := .free }

/-- A free entry, or else the oldest resolved one, or else the oldest waiting one. -/
def arpCacheAllocateEntry : StackM (Option Nat) := do
  let net ← read id
  match arpFind cfg net i fun e => decide (e.state = .free) with
  | some j =>
    updateEntry i j fun entry => { entry with needsRetransmit := false }
    return some j
  | none =>
    match arpOldest cfg net i .resolved ArpEntry.timeoutMs with
    | some j =>
      arpEvict cfg i j
      return some j
    | none =>
      match arpOldest cfg net i .pending ArpEntry.retryMs with
      | some j =>
        arpEvict cfg i j
        return some j
      | none => return none

def arpBody (operation : Nat) (sha : Mac) (spa : Addr) (tha : Mac) (tpa : Addr) : List UInt8 :=
  be16Bytes 1 ++ be16Bytes 0x0800 ++ [6, 4] ++ be16Bytes operation ++ List.ofFn sha ++ List.ofFn spa ++
    List.ofFn tha ++ List.ofFn tpa

/-- A request goes to everybody and a reply to the target. -/
def arpSend (i operation : Nat) (targetMac : Mac) (targetIp : Addr) : StackM Unit := do
  let b ← packetAlloc cfg
  updatePacket b fun p => { p with dataOffset := 32, dataLength := arpPacketSize }
  let interface ← read fun net => net.interfaces i
  let tha := if operation = arpOpRequest then zeroMac else targetMac
  writeData b 0 (arpBody operation interface.macAddr interface.ipAddr tha targetIp)
  let ethDestMac := if operation = arpOpRequest then broadcastMac else targetMac
  ethernetTx cfg env i b ethDestMac ethertypeArp

variable (ipAddr : Addr)

/-- The entry of an address, or else one handed out for it. -/
def arpEntryFor : StackM (Option Nat) := do
  let net ← read id
  match arpFind cfg net i fun e => decide (e.state ≠ .free ∧ e.ipAddr = ipAddr) with
  | some j => return some j
  | none => arpCacheAllocateEntry cfg i

def sendParked (i j : Nat) (macAddr : Mac) : StackM Unit := do
  let entry ← read fun net => net.entry i j
  match entry.pendingPacket with
  | none => pure ()
  | some b =>
    ignore (ethernetTx cfg env i b macAddr ethertypeIpv4)
    updateEntry i j fun entry => { entry with pendingPacket := none }

/-- The mapping is entered, and the packet that waited for it leaves. -/
def arpCacheUpdate (macAddr : Mac) : StackM Unit := do
  match ← arpEntryFor cfg i ipAddr with
  | none => pure ()
  | some j =>
    let currentTime ← read Stack.systemTicks
    updateEntry i j fun entry =>
      { entry with
        ipAddr := ipAddr, macAddr := macAddr, state := .resolved,
        timeoutMs := u32 (currentTime + cfg.arpEntryTimeoutMs), needsRetransmit := false }
    sendParked cfg env i j macAddr

def broadcastAddr : Addr := fun _ => 0xFF

def isMulticastAddr (a : Addr) : Bool := decide (224 ≤ (a 0).toNat ∧ (a 0).toNat ≤ 239)

def multicastMac (a : Addr) : Mac := ![0x01, 0x00, 0x5E, a 1 &&& 0x7F, a 2, a 3]

/-- A second packet for the same target replaces the first. -/
def arpPark (i j b : Nat) : StackM Unit := do
  releaseParked cfg i j
  updateEntry i j fun entry => { entry with pendingPacket := some b }

/-- Hand the packet to the driver or park it; the caller gives it away either way. -/
def arpResolve (b : Nat) : StackM Unit := do
  if ipAddr = broadcastAddr then ethernetTx cfg env i b broadcastMac ethertypeIpv4
  else if isMulticastAddr ipAddr then ethernetTx cfg env i b (multicastMac ipAddr) ethertypeIpv4
  else
    let net ← read id
    match arpCacheQuery cfg net i ipAddr with
    | some resolvedMac => ethernetTx cfg env i b resolvedMac ethertypeIpv4
    | none =>
      match arpFind cfg net i fun e => decide (e.state ≠ .free ∧ e.ipAddr = ipAddr) with
      | some j => arpPark cfg i j b
      | none =>
        match ← arpCacheAllocateEntry cfg i with
        | none =>
          ignore (packetRelease cfg b)
          fail .noPacketBuffer
        | some j =>
          let currentTime ← read Stack.systemTicks
          updateEntry i j fun entry =>
            { entry with
              ipAddr := ipAddr, state := .pending, timeoutMs := u32 (currentTime + cfg.arpEntryTimeoutMs),
              retryMs := u32 (currentTime + cfg.arpRetryTimeoutMs), retriesLeft := cfg.arpMaxRetries,
              needsRetransmit := false, pendingPacket := some b }
          ignore (arpSend cfg env i arpOpRequest zeroMac ipAddr)

def arpRx (i b : Nat) : StackM Unit := do
  let p ← read fun net => net.packetPool b
  reject (p.dataLength < arpPacketSize) .invalidPacket
  let data := p.data
  reject (be16 data 0 ≠ 1 ∨ be16 data 2 ≠ 0x0800 ∨ data 4 ≠ 6 ∨ data 5 ≠ 4) .invalidPacket
  let operation := be16 data 6
  let sha := macAt data 8
  let spa := addrAt data 14
  let tpa := addrAt data 24
  let interface ← read fun net => net.interfaces i
  onlyIf (tpa = interface.ipAddr) (arpCacheUpdate cfg env i spa sha)
  onlyIf (tpa = interface.ipAddr ∧ operation = arpOpRequest) (ignore (arpSend cfg env i arpOpReply sha spa))
  ignore (packetRelease cfg b)

def arpTickEntry (i j : Nat) : StackM Unit := do
  let net ← read id
  let currentTime := net.systemTicks
  let entry := net.entry i j
  match entry.state with
  | .pending =>
    if timeAfterOrEqual currentTime entry.retryMs then
      if 0 < entry.retriesLeft then
        updateEntry i j fun entry =>
          { entry with
            retriesLeft := entry.retriesLeft - 1, retryMs := u32 (currentTime + cfg.arpRetryTimeoutMs),
            needsRetransmit := true }
      else arpEvict cfg i j
    else pure ()
  | .resolved =>
    if timeAfterOrEqual currentTime entry.timeoutMs then
      updateEntry i j fun entry => { entry with needsRetransmit := false, state := .free }
    else pure ()
  | .free => pure ()

def forIndices (f : Nat → StackM Unit) : Nat → StackM Unit
  | 0 => pure ()
  | n + 1 => do
    forIndices f n
    f n

def arpTick : StackM Unit := forIndices (arpTickEntry cfg i) cfg.arpCacheSize

end XSDK.Net
