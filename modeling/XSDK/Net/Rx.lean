import XSDK.Net.Dhcp

/-! A frame on its way in, and the calls that drive the stack. -/
namespace XSDK.Net

open Library Prog

variable (cfg : Config) (env : Env)

def rxFlagIpChecksumValid : Nat := 0x01
def rxFlagIpChecksumInvalid : Nat := 0x02
def rxFlagL4ChecksumValid : Nat := 0x04
def rxFlagL4ChecksumInvalid : Nat := 0x08

/-- A checksum is right when the hardware says so or, where it says nothing, when it computes to zero. -/
def checksumFails (offload : Bool) (flags valid invalid computed : Nat) : Bool :=
  if offload = true ∧ flags &&& invalid ≠ 0 then true
  else if offload = true ∧ flags &&& valid ≠ 0 then false
  else decide (computed ≠ 0)

def udpCallback (datagram : Datagram) : StackM (Except Error Unit) := do
  let received ← read fun net => datagram :: net.received
  modify fun net => { net with received := received }
  match datagram.socket with
  | .user _ => return env.onReceived received
  | .dhcp i => attempt (dhcpRxCallback cfg env i datagram.payload)

variable (i b : Nat) (srcIp : Addr)

/-- The part of udpRx in which every error releases the packet. -/
def udpAccept : StackM SocketId := do
  let net ← read id
  let p := net.packetPool b
  let interface := net.interfaces i
  reject (p.dataLength < udpHeaderSize) .invalidLength
  let udpLen := be16 p.data 4
  reject (udpLen < udpHeaderSize ∨ p.dataLength < udpLen) .invalidLength
  onlyIf (udpLen < p.dataLength) (packetSetLength b udpLen)
  reject
    (be16 p.data 6 ≠ 0 ∧
      checksumFails interface.checksumCaps.udpRx p.flags rxFlagL4ChecksumValid rxFlagL4ChecksumInvalid
        (checksumCalculatePseudo p.data udpLen srcIp interface.ipAddr protocolUdp udpLen) = true)
    .checksumFailed
  let found ← udpFind cfg fun net s => decide ((net.sockets s).localPort = be16 p.data 2)
  match found with
  | none => fail .notFound
  | some s =>
    packetPull b udpHeaderSize
    return s

def udpRx : StackM Unit := do
  let header ← read fun net => (net.packetPool b).data
  let s ← onError (udpAccept cfg i b srcIp) (packetRelease cfg b)
  let net ← read id
  -- a call through a null pointer
  if (net.sockets s).hasCallback = false then hang
  else
    let result ← udpCallback cfg env ⟨s, srcIp, be16 header 0, (net.packetPool b).bytes⟩
    ignore (packetRelease cfg b)
    finish result

def icmpAccept : StackM Unit := do
  let net ← read id
  let p := net.packetPool b
  let interface := net.interfaces i
  reject (p.dataLength < icmpHeaderSize) .invalidLength
  reject
    (checksumFails interface.checksumCaps.icmpRx p.flags rxFlagL4ChecksumValid rxFlagL4ChecksumInvalid
      (checksumCalculate p.data p.dataLength) = true)
    .checksumFailed
  reject (¬(p.data 0 = 8 ∧ p.data 1 = 0)) .unsupported

def icmpReply : StackM Unit := do
  let interface ← read fun net => net.interfaces i
  writeData b 0 [0]
  writeData b 2 [0, 0]
  if interface.checksumCaps.icmpTx then updatePacket b fun p => { p with flags := p.flags ||| 0x08 }
  else updatePacket b fun p => p.write 2 (be16Bytes (checksumCalculate p.data p.dataLength))

def icmpRx : StackM Unit := do
  onError (icmpAccept i b) (packetRelease cfg b)
  icmpReply i b
  ipv4Tx cfg env i b srcIp protocolIcmp

variable (interface : Interface)

def isSubnetBroadcast (dest : Addr) : Bool :=
  decide (∀ i, dest i &&& interface.netmask i = interface.ipAddr i &&& interface.netmask i ∧
    dest i &&& ~~~(interface.netmask i) = ~~~(interface.netmask i))

def ipv4IsForUs (dest : Addr) : Bool :=
  decide (dest = interface.ipAddr) || decide (dest = broadcastAddr) || isMulticastAddr dest ||
    isSubnetBroadcast interface dest

def ipv4Rx : StackM Unit := do
  let net ← read id
  let p := net.packetPool b
  let interface := net.interfaces i
  let data := p.data
  let length := p.dataLength
  reject (length < ipv4HeaderMinSize) .invalidLength
  reject ((data 0).toNat / 16 ≠ 4) .invalidPacket
  let ihl := (data 0).toNat % 16
  reject (ihl < 5) .invalidPacket
  let headerLen := ihl * 4
  reject (length < headerLen) .invalidLength
  let totalLength := be16 data 2
  reject (totalLength < headerLen ∨ length < totalLength) .invalidLength
  reject (ipv4IsForUs interface (addrAt data 16) = false) .notFound
  reject
    (checksumFails interface.checksumCaps.ipRx p.flags rxFlagIpChecksumValid rxFlagIpChecksumInvalid
      (checksumCalculate data headerLen) = true)
    .checksumFailed
  reject (be16 data 6 &&& 0x3FFF ≠ 0) .unsupported
  reject (5 < ihl) .unsupported
  packetPull b headerLen
  let payloadLen := totalLength - headerLen
  onlyIf (payloadLen < length - headerLen) (packetSetLength b payloadLen)
  if (data 9).toNat = protocolIcmp then icmpRx cfg env i b (addrAt data 12)
  else if (data 9).toNat = protocolUdp then udpRx cfg env i b (addrAt data 12)
  else fail .unsupported

def macAccepted (dest : Mac) : Bool :=
  decide (dest = interface.macAddr) || ethernetIsBroadcast dest || ethernetIsMulticast dest

def ethernetRx : StackM Unit := do
  let net ← read id
  let p := net.packetPool b
  reject (p.dataLength < ethernetHeaderSize) .invalidLength
  let ethertype := be16 p.data 12
  reject (macAccepted (net.interfaces i) (macAt p.data 0) = false) .notFound
  packetPull b ethernetHeaderSize
  if ethertype = ethertypeArp then arpRx cfg env i b
  else if ethertype = ethertypeIpv4 then ipv4Rx cfg env i b
  else fail .unsupported

def interfaceRxFrame (i : Nat) (frame : List UInt8) (rxFlags : Nat) : StackM Unit := do
  reject (frame.length < ethernetMinFrameSize) .invalidLength
  reject (ethernetMtu + ethernetHeaderSize < frame.length) .invalidLength
  let b ← packetAlloc cfg
  let capacity ← read fun net => (net.packetPool b).capacity
  let receive := do
    reject (capacity < frame.length) .bufferTooSmall
    writeData b 0 frame
    updatePacket b fun p => { p with dataOffset := 0, dataLength := frame.length, flags := rxFlags }
    ethernetRx cfg env i b
  onError receive (packetRelease cfg b)

/- The calls that drive the stack. -/

/-- What the application sets up in an interface object before it adds it. -/
structure InterfaceConfig where
  macAddr : Mac
  ipAddr : Addr
  netmask : Addr
  gateway : Addr
  checksumCaps : ChecksumCaps

def interfaceAdd (config : InterfaceConfig) : StackM Unit := do
  let net ← read id
  reject (net.isInitialized = false) .invalidState
  reject (cfg.maxInterfaces ≤ net.interfaceCount) .bufferTooSmall
  let i := net.interfaceCount
  updateInterface i fun interface =>
    { interface with
      macAddr := config.macAddr, ipAddr := config.ipAddr, netmask := config.netmask, gateway := config.gateway,
      isUp := false, checksumCaps := config.checksumCaps }
  arpCacheInit cfg i
  modify fun net => { net with interfaceCount := i + 1 }

def interfaceLinkSet (i : Nat) (isLinkUp : Bool) : StackM Unit :=
  updateInterface i fun interface => { interface with isUp := isLinkUp }

def retransmitEntry (i j : Nat) : StackM Unit := do
  let entry ← read fun net => net.entry i j
  if entry.state = .pending ∧ entry.needsRetransmit = true then
    updateEntry i j fun entry => { entry with needsRetransmit := false }
    ignore (arpSend cfg env i arpOpRequest zeroMac entry.ipAddr)
  else pure ()

/-- What a driver's poll does: it delivers frames with their flags, and ends with a status. -/
structure Poll where
  frames : List (List UInt8 × Nat)
  status : Except Error Unit

def deliver (i : Nat) : List (List UInt8 × Nat) → StackM Unit
  | [] => pure ()
  | (frame, flags) :: rest => do
    ignore (interfaceRxFrame cfg env i frame flags)
    deliver i rest

def processInterface (i : Nat) (poll : Poll) : StackM Unit := do
  deliver cfg env i poll.frames
  finish poll.status
  forIndices (retransmitEntry cfg env i) cfg.arpCacheSize

/-- One poll of every interface, in order, up to the first that fails. -/
def process (polls : Nat → Poll) : StackM Unit := do
  let net ← read id
  reject (net.isInitialized = false) .invalidState
  forIndices (fun i => processInterface cfg env i (polls i)) (min net.interfaceCount cfg.maxInterfaces)

def tickInterface (elapsedMs i : Nat) : StackM Unit := do
  arpTick cfg i
  dhcpTick cfg env i elapsedMs

def tick (elapsedMs : Nat) : StackM Unit := do
  let net ← read id
  reject (net.isInitialized = false) .invalidState
  modify fun net => { net with systemTicks := u32 (net.systemTicks + elapsedMs) }
  forIndices (tickInterface cfg env elapsedMs) (min net.interfaceCount cfg.maxInterfaces)

/-- The context after initialisation; the pool's memory is the application's. -/
def Stack.init (memory : Nat → Nat → UInt8) : Stack where
  isInitialized := true
  packetPool := fun b => ⟨memory b, packetFrameSize, 0, 0, false, 0⟩
  interfaces := fun _ =>
    { macAddr := zeroMac, ipAddr := zeroAddr, netmask := zeroAddr, gateway := zeroAddr, dnsPrimary := zeroAddr,
      dnsSecondary := zeroAddr, isUp := false, checksumCaps := ⟨false, false, false, false, false, false⟩,
      arpCache := fun _ => ArpEntry.zero, dhcp := DhcpContext.zero }
  interfaceCount := 0
  sockets := fun _ => UdpContext.zero
  udpList := none
  systemTicks := 0
  ipv4Id := 0
  nextEphemeral := ephemeralMin
  overwritten := []
  transmitted := []
  received := []

end XSDK.Net
