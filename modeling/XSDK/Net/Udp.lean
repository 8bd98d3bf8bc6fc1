import XSDK.Net.Arp

/-! IPv4 on its way out, and the socket list with sending. -/
namespace XSDK.Net

open Library Prog

variable (cfg : Config) (env : Env)

def sameSubnet (a b netmask : Addr) : Bool := decide (∀ i, a i &&& netmask i = b i &&& netmask i)

def ipv4Header (totalLen id protocol : Nat) (src dest : Addr) : List UInt8 :=
  [0x45, 0x00] ++ be16Bytes totalLen ++ be16Bytes id ++ be16Bytes 0 ++
    [UInt8.ofNat cfg.ipv4DefaultTtl, UInt8.ofNat protocol, 0x00, 0x00] ++ List.ofFn src ++ List.ofFn dest

def ipv4NextHop (interface : Interface) (dest : Addr) : Addr :=
  if isMulticastAddr dest = false ∧ dest ≠ broadcastAddr ∧ sameSubnet dest interface.ipAddr interface.netmask = false ∧
      interface.gateway ≠ zeroAddr then interface.gateway
  else dest

def ipv4Build (i b : Nat) (dest : Addr) (protocol : Nat) : StackM Unit := do
  packetPush b ipv4HeaderMinSize
  let net ← read id
  let interface := net.interfaces i
  modify fun net => { net with ipv4Id := u16 (net.ipv4Id + 1) }
  writeData b 0 (ipv4Header cfg (net.packetPool b).dataLength net.ipv4Id protocol interface.ipAddr dest)
  if interface.checksumCaps.ipTx then updatePacket b fun p => { p with flags := p.flags ||| 0x01 }
  else updatePacket b fun p => p.write 10 (be16Bytes (checksumCalculate p.data ipv4HeaderMinSize))

def ipv4Tx (i b : Nat) (dest : Addr) (protocol : Nat) : StackM Unit := do
  ipv4Build cfg i b dest protocol
  let interface ← read fun net => net.interfaces i
  arpResolve cfg env i (ipv4NextHop interface dest) b

/-- Every part of the address, the netmask and the gateway that the source checks. -/
local instance addrBytes_ne_zero : NeZero 4 := ⟨four_ne_zero⟩

def ipv4ConfigAccepted (ipAddr netmask gateway : Addr) : Bool :=
  let maskVal := be32 (fun k => if h : k < 4 then netmask ⟨k, h⟩ else 0) 0
  let test := u32 (2 ^ 32 - 1 - maskVal + 1)
  decide (ipAddr 0 ≠ 127 ∧ (ipAddr 0).toNat < 224 ∧ ipAddr ≠ zeroAddr ∧ maskVal ≠ 0 ∧
    test &&& u32 (test + (2 ^ 32 - 1)) = 0 ∧ (gateway ≠ zeroAddr → sameSubnet gateway ipAddr netmask = true))

def flushEntry (i j : Nat) : StackM Unit := do
  updateEntry i j fun entry =>
    { entry with state := .free, timeoutMs := 0, retryMs := 0, retriesLeft := 0, ipAddr := zeroAddr, macAddr := zeroMac }
  releaseParked cfg i j

def ipv4ConfigStatic (i : Nat) (ipAddr netmask gateway : Addr) : StackM Unit := do
  reject (ipv4ConfigAccepted ipAddr netmask gateway = false) .invalidArgument
  updateInterface i fun interface =>
    { interface with
      ipAddr := ipAddr, netmask := netmask, gateway := gateway, dnsPrimary := zeroAddr, dnsSecondary := zeroAddr }
  forIndices (flushEntry cfg i) cfg.arpCacheSize

/- The socket list. Every socket object is on it at most once unless a socket was cleared
while it was on the list, which can close the list to a ring; a search that has seen more
sockets than there are never ends. -/

def socketFuel : Nat := cfg.userSockets + cfg.maxInterfaces + 1

/-- The first socket from a position on that passes a test. -/
def udpSearch (net : Stack) (p : SocketId → Bool) : Nat → Option SocketId → Option (Option SocketId)
  | _, none => some none
  | 0, some _ => none
  | fuel + 1, some s => if p s then some (some s) else udpSearch net p fuel (net.sockets s).next

def udpFind (p : Stack → SocketId → Bool) : StackM (Option SocketId) := do
  let net ← read id
  match udpSearch net (p net) (socketFuel cfg) net.udpList with
  | none => hang
  | some found => return found

def portInUse (port : Nat) : StackM Bool := do
  let found ← udpFind cfg fun net s => decide ((net.sockets s).localPort = port)
  return found.isSome

def ephemeralMin : Nat := 49152

/-- The next free port of the ephemeral range, from where the last search stopped. -/
def ephemeralPort (start : Nat) : Nat → StackM Nat
  | 0 => fail .noPacketBuffer
  | fuel + 1 => do
    let testPort ← read Stack.nextEphemeral
    let next := u16 (testPort + 1)
    let next := if next < ephemeralMin then ephemeralMin else next
    modify fun net => { net with nextEphemeral := next }
    let inUse ← portInUse cfg testPort
    if inUse = false then return testPort
    else if next = start then fail .noPacketBuffer
    else ephemeralPort start fuel

def choosePort (localPort : Nat) : StackM Nat := do
  let start ← read Stack.nextEphemeral
  if localPort = 0 then ephemeralPort cfg start (65536 - ephemeralMin)
  else
    let inUse ← portInUse cfg localPort
    reject (inUse = true) .invalidArgument
    return localPort

variable (s : SocketId)

def udpOpen (localPort : Nat) : StackM Unit := do
  let port ← choosePort cfg localPort
  modify fun net =>
    { net.setSocket s ⟨true, port, true, net.udpList⟩ with udpList := some s }

/-- The link that holds a socket, as the socket it belongs to or none for the list head. -/
def udpPredecessor (net : Stack) (s : SocketId) : Nat → Option SocketId → Option SocketId →
    Option (Option (Option SocketId))
  | _, _, none => some none
  | 0, _, some _ => none
  | fuel + 1, prev, some cur =>
    if cur = s then some (some prev) else udpPredecessor net s fuel (some cur) (net.sockets cur).next

def udpUnlink : StackM Unit := do
  let net ← read id
  match udpPredecessor net s (socketFuel cfg) none net.udpList with
  | none => hang
  | some none => fail .notFound
  | some (some none) => modify fun net => { net with udpList := (net.sockets s).next }
  | some (some (some prev)) =>
    updateSocket prev fun socket => { socket with next := (net.sockets s).next }

def udpClose : StackM Unit := do
  let socket ← read fun net => net.sockets s
  reject (socket.hasNet = false) .notFound
  udpUnlink cfg s
  updateSocket s fun _ => UdpContext.zero

/-- The first interface on the target's subnet, or else the first one. -/
def udpTarget (net : Stack) (remoteAddr : Addr) : Option Nat :=
  let routed := (List.range net.interfaceCount).find? fun i =>
    sameSubnet remoteAddr (net.interfaces i).ipAddr (net.interfaces i).netmask
  match routed with
  | some i => some i
  | none => if net.interfaceCount = 0 then none else some 0

def udpHeader (localPort remotePort totLen : Nat) : List UInt8 :=
  be16Bytes localPort ++ be16Bytes remotePort ++ be16Bytes totLen ++ [0, 0]

def udpBuild (i b : Nat) (localPort : Nat) (remoteAddr : Addr) (remotePort : Nat) (payload : List UInt8) :
    StackM Unit := do
  updatePacket b fun p => { p with dataOffset := 64, dataLength := u32 payload.length }
  writeData b 0 payload
  packetPush b udpHeaderSize
  let totLen := u16 (payload.length + udpHeaderSize)
  writeData b 0 (udpHeader localPort remotePort totLen)
  let interface ← read fun net => net.interfaces i
  if interface.checksumCaps.udpTx then updatePacket b fun p => { p with flags := p.flags ||| 0x02 }
  else
    updatePacket b fun p =>
      let checksum := checksumCalculatePseudo p.data totLen interface.ipAddr remoteAddr protocolUdp totLen
      -- zero would mean that the datagram carries no checksum
      p.write 6 (be16Bytes (if checksum = 0 then 0xFFFF else checksum))

def udpSendTo (remoteAddr : Addr) (remotePort : Nat) (payload : List UInt8) : StackM Unit := do
  let net ← read id
  reject ((net.sockets s).hasNet = false) .nullPointer
  match udpTarget net remoteAddr with
  | none => fail .linkDown
  | some i =>
    let b ← packetAlloc cfg
    onError (udpBuild i b (net.sockets s).localPort remoteAddr remotePort payload) (packetRelease cfg b)
    ipv4Tx cfg env i b remoteAddr protocolUdp

end XSDK.Net
