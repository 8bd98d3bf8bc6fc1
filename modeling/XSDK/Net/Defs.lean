import Mathlib.Algebra.Ring.Nat
import Mathlib.Data.Fintype.Basic
import XSDK.Library.Prog

/-! The state of the network stack: the packet pool, the interfaces with their ARP
caches and DHCP clients, and the bound sockets. Words are naturals with explicit
wrap-around, bytes are UInt8, and a pointer into a table is an index. -/
namespace XSDK.Net

open Library

/-- Sizes and times fixed at build time. -/
structure Config where
  packetPoolSize : Nat
  maxInterfaces : Nat
  arpCacheSize : Nat
  arpEntryTimeoutMs : Nat
  arpMaxRetries : Nat
  arpRetryTimeoutMs : Nat
  ipv4DefaultTtl : Nat
  /-- Socket objects of the application; the stack itself does not bound them. -/
  userSockets : Nat

/-- A 32-bit word and a 16-bit word of a larger value. -/
def u32 (x : Nat) : Nat := x % 2 ^ 32
def u16 (x : Nat) : Nat := x % 2 ^ 16

theorem u32_of_lt {x : Nat} (h : x < 2 ^ 32) : u32 x = x := Nat.mod_eq_of_lt h
theorem u16_of_lt {x : Nat} (h : x < 2 ^ 16) : u16 x = x := Nat.mod_eq_of_lt h

/-- The signed distance between two instants of the wrapping millisecond clock. -/
def remaining (a b : Nat) : Int := ((a : Int) - b).bmod (2 ^ 32)

def timeAfterOrEqual (a b : Nat) : Bool := decide (0 ≤ remaining a b)

/-- Return codes other than OK; a driver or a callback has codes of its own. -/
inductive Error where
  | nullPointer
  | invalidArgument
  | invalidState
  | invalidPacket
  | invalidLength
  | bufferTooSmall
  | noPacketBuffer
  | unsupported
  | notFound
  | linkDown
  | checksumFailed
  | timeout
  | dnsBusy
  | dnsNoServer
  | dnsNameError
  | dnsServerError
  | other (code : Nat)
  deriving DecidableEq, Repr

abbrev Addr := Fin 4 → UInt8
abbrev Mac := Fin 6 → UInt8

def packetFrameSize : Nat := 1536
def ethernetHeaderSize : Nat := 14
def ethernetMinFrameSize : Nat := 60
def ethernetMtu : Nat := 1500
def ipv4HeaderMinSize : Nat := 20
def udpHeaderSize : Nat := 8
def arpPacketSize : Nat := 28
def icmpHeaderSize : Nat := 8

def ethertypeIpv4 : Nat := 0x0800
def ethertypeArp : Nat := 0x0806
def protocolIcmp : Nat := 1
def protocolUdp : Nat := 17

/-- A carved buffer with the window of its active bytes. -/
structure PacketBuffer where
  buffer : Nat → UInt8
  capacity : Nat
  dataOffset : Nat
  dataLength : Nat
  isInUse : Bool
  flags : Nat

inductive ArpState where
  | free
  | pending
  | resolved
  deriving DecidableEq, Repr

structure ArpEntry where
  ipAddr : Addr
  macAddr : Mac
  state : ArpState
  timeoutMs : Nat
  retryMs : Nat
  retriesLeft : Nat
  needsRetransmit : Bool
  pendingPacket : Option Nat

inductive DhcpState where
  | init
  | selecting
  | requesting
  | bound
  | renewing
  | rebinding
  | failed
  deriving DecidableEq, Repr

structure DhcpContext where
  state : DhcpState
  xid : Nat
  leaseTime : Nat
  t1 : Nat
  t2 : Nat
  leaseElapsedTotalMs : Nat
  t1ElapsedMs : Nat
  t2ElapsedMs : Nat
  retryElapsedMs : Nat
  currentRetryTimeout : Nat
  retryCount : Nat
  offeredIp : Addr
  serverIp : Addr
  netmask : Addr
  gateway : Addr
  dnsPrimary : Addr
  dnsSecondary : Addr
  isActive : Bool

def zeroAddr : Addr := fun _ => 0
def zeroMac : Mac := fun _ => 0

def DhcpContext.zero : DhcpContext where
  state := .init
  xid := 0
  leaseTime := 0
  t1 := 0
  t2 := 0
  leaseElapsedTotalMs := 0
  t1ElapsedMs := 0
  t2ElapsedMs := 0
  retryElapsedMs := 0
  currentRetryTimeout := 0
  retryCount := 0
  offeredIp := zeroAddr
  serverIp := zeroAddr
  netmask := zeroAddr
  gateway := zeroAddr
  dnsPrimary := zeroAddr
  dnsSecondary := zeroAddr
  isActive := false

/-- What an interface's hardware computes or verifies itself. -/
structure ChecksumCaps where
  ipTx : Bool
  ipRx : Bool
  udpTx : Bool
  udpRx : Bool
  icmpTx : Bool
  icmpRx : Bool

structure Interface where
  macAddr : Mac
  ipAddr : Addr
  netmask : Addr
  gateway : Addr
  dnsPrimary : Addr
  dnsSecondary : Addr
  isUp : Bool
  checksumCaps : ChecksumCaps
  arpCache : Nat → ArpEntry
  dhcp : DhcpContext

/-- A socket object is the application's or is embedded in an interface's DHCP client. -/
inductive SocketId where
  | user (n : Nat)
  | dhcp (interface : Nat)
  deriving DecidableEq, Repr

structure UdpContext where
  hasNet : Bool
  localPort : Nat
  /-- The callback pointer is set; which callback it is follows from the socket's owner. -/
  hasCallback : Bool
  next : Option SocketId

def UdpContext.zero : UdpContext := ⟨false, 0, false, none⟩

/-- What a driver's transmit function is handed. -/
structure Frame where
  interface : Nat
  bytes : List UInt8
  flags : Nat
  deriving DecidableEq

/-- What a socket's callback is handed. -/
structure Datagram where
  socket : SocketId
  remoteAddr : Addr
  remotePort : Nat
  payload : List UInt8
  deriving DecidableEq

/-- One network context. The two lists at the end record what left the stack through
transmit and through callbacks; no function of the stack reads them. -/
structure Stack where
  isInitialized : Bool
  packetPool : Nat → PacketBuffer
  interfaces : Nat → Interface
  interfaceCount : Nat
  sockets : SocketId → UdpContext
  udpList : Option SocketId
  systemTicks : Nat
  ipv4Id : Nat
  nextEphemeral : Nat
  /-- The parked packets that a reset of an ARP cache overwrote. -/
  overwritten : List Nat
  transmitted : List Frame
  received : List Datagram

/-- The drivers and the application: how transmit and a callback end, given everything
they were handed so far, the last hand-over first. -/
structure Env where
  transmit : List Frame → Except Error Unit
  onReceived : List Datagram → Except Error Unit

abbrev StackM := Prog Stack Error

variable (net : Stack)

def Stack.setPacket (b : Nat) (p : PacketBuffer) : Stack :=
  { net with packetPool := Function.update net.packetPool b p }

def Stack.setInterface (i : Nat) (interface : Interface) : Stack :=
  { net with interfaces := Function.update net.interfaces i interface }

def Stack.setSocket (s : SocketId) (socket : UdpContext) : Stack :=
  { net with sockets := Function.update net.sockets s socket }

def Stack.entry (i j : Nat) : ArpEntry := (net.interfaces i).arpCache j

def updateInterface (i : Nat) (f : Interface → Interface) : StackM Unit :=
  .modify fun net => net.setInterface i (f (net.interfaces i))

def updateEntry (i j : Nat) (f : ArpEntry → ArpEntry) : StackM Unit :=
  updateInterface i fun interface =>
    { interface with arpCache := Function.update interface.arpCache j (f (interface.arpCache j)) }

def updatePacket (b : Nat) (f : PacketBuffer → PacketBuffer) : StackM Unit :=
  .modify fun net => net.setPacket b (f (net.packetPool b))

def updateDhcp (i : Nat) (f : DhcpContext → DhcpContext) : StackM Unit :=
  updateInterface i fun interface => { interface with dhcp := f interface.dhcp }

def updateSocket (s : SocketId) (f : UdpContext → UdpContext) : StackM Unit :=
  .modify fun net => net.setSocket s (f (net.sockets s))

end XSDK.Net
