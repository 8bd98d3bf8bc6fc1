import XSDK.Net.Rx

/-! The stack together with the DNS clients above it: their contexts belong to the
application, and each embeds a socket. What happens to a query and what a parser looks at
are kept in two lists that no function reads. -/
namespace XSDK.Net

open Library Prog

inductive DnsState where
  | idle
  | querying
  | success
  | failed
  deriving DecidableEq, Repr

structure DnsContext where
  state : DnsState
  transactionId : Nat
  retryElapsedMs : Nat
  currentRetryTimeout : Nat
  retryCount : Nat
  /-- Up to its terminating zero. -/
  hostname : List UInt8
  hasCallback : Bool
  dnsServer : Addr
  resolvedIp : Addr
  resultStatus : Except Error Unit
  isActive : Bool

def DnsContext.zero : DnsContext where
  state := .idle
  transactionId := 0
  retryElapsedMs := 0
  currentRetryTimeout := 0
  retryCount := 0
  hostname := []
  hasCallback := false
  dnsServer := zeroAddr
  resolvedIp := zeroAddr
  resultStatus := .ok ()
  isActive := false

/-- The steps in the life of a query of a DNS context. -/
inductive Event where
  | called (d : Nat)
  | started (d : Nat)
  | sent (d : Nat)
  | accepted (d : Nat)
  | refused (d : Nat) (error : Error)
  | reported (d : Nat) (hostname : List UInt8) (ipAddr : Option Addr) (result : Except Error Unit)

/-- What a receive function does with the bytes of a packet or of a payload. -/
inductive Touch where
  /-- So many bytes from an offset on, out of so many. -/
  | bytes (offset size limit : Nat)
  /-- An offset, before it is cut to 32 bits. -/
  | sum (value : Nat)

structure Host where
  net : Stack
  dns : Nat → DnsContext
  /-- The last one first. -/
  events : List Event
  touched : List Touch

abbrev HostM := Prog Host Error

structure HostConfig where
  stack : Config
  dnsContexts : Nat
  dnsRetryTimeoutMs : Nat
  dnsMaxRetries : Nat

namespace HostConfig

variable (c : HostConfig)

/-- The socket that a DNS context embeds comes after the application's own. -/
def dnsSocket (d : Nat) : SocketId := .user (c.stack.userSockets + d)

def config : Config := { c.stack with userSockets := c.stack.userSockets + c.dnsContexts }

end HostConfig

/-- What the application does in a result callback: queries, each in the light of how the
ones before ended. -/
inductive Callback (contexts : Nat) where
  | done
  | query (d : Fin contexts) (hostname : List UInt8) (next : Except Error Unit → Callback contexts)

structure HostEnv (c : HostConfig) where
  stack : Env
  onResult : List Event → Callback c.dnsContexts

def lift {α : Type} (m : StackM α) : HostM α := zoom Host.net (fun net h => { h with net := net }) m

def note (event : Event) : HostM Unit := modify fun h => { h with events := event :: h.events }

def touch (t : Touch) : HostM Unit := modify fun h => { h with touched := t :: h.touched }

def updateDns (d : Nat) (f : DnsContext → DnsContext) : HostM Unit :=
  modify fun h => { h with dns := Function.update h.dns d (f (h.dns d)) }

/- A payload as the callbacks read it. -/

variable (payload : List UInt8)

def peek (k : Nat) : HostM UInt8 := do
  touch (.bytes k 1 payload.length)
  return payload.getD k 0

def peek16 (k : Nat) : HostM Nat := do
  touch (.bytes k 2 payload.length)
  return be16 (fun j => payload.getD j 0) k

def peekAddr (k : Nat) : HostM Addr := do
  touch (.bytes k 4 payload.length)
  return addrAt (fun j => payload.getD j 0) k

/-- An offset in 32 bits. -/
def offset (value : Nat) : HostM Nat := do
  touch (.sum value)
  return u32 value

end XSDK.Net
