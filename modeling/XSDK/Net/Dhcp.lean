import XSDK.Net.Udp

/-! The DHCP client of an interface: the messages it sends, what it takes from a reply, and
its retry and lease timers. -/
namespace XSDK.Net

open Library Prog

variable (cfg : Config) (env : Env)

def dhcpClientPort : Nat := 68
def dhcpServerPort : Nat := 67
def dhcpMagicCookie : Nat := 0x63825363

def dhcpDiscover : Nat := 1
def dhcpOffer : Nat := 2
def dhcpRequest : Nat := 3
def dhcpAck : Nat := 5
def dhcpNak : Nat := 6

def dhcpOptions (dhcp : DhcpContext) (msgType : Nat) : List UInt8 :=
  let choice :=
    if msgType = dhcpRequest ∧ (dhcp.state = .selecting ∨ dhcp.state = .requesting) then
      [50, 4] ++ List.ofFn dhcp.offeredIp ++ [54, 4] ++ List.ofFn dhcp.serverIp
    else []
  [53, 1, UInt8.ofNat msgType] ++ choice ++ [55, 4, 1, 3, 6, 15] ++ [255]

def dhcpPayload (interface : Interface) (msgType : Nat) : List UInt8 :=
  let dhcp := interface.dhcp
  let ciaddr := if dhcp.state = .renewing ∨ dhcp.state = .rebinding then interface.ipAddr else zeroAddr
  let options := dhcpOptions dhcp msgType
  [1, 1, 6, 0] ++ be32Bytes dhcp.xid ++ [0, 0, 0x80, 0] ++ List.ofFn ciaddr ++ List.replicate 12 0 ++
    List.ofFn interface.macAddr ++ List.replicate 202 0 ++ be32Bytes dhcpMagicCookie ++ options ++
    List.replicate (60 - options.length) 0

def dhcpSendMessage (i msgType : Nat) : StackM Unit := do
  let interface ← read fun net => net.interfaces i
  let dest := if interface.dhcp.state = .renewing then interface.dhcp.serverIp else broadcastAddr
  udpSendTo cfg env (.dhcp i) dest dhcpServerPort (dhcpPayload interface msgType)

/-- What the options of a reply carry, beside what they change in the client. -/
structure DhcpReply where
  msgType : Nat
  leaseTime : Nat
  t1 : Nat
  t2 : Nat

def dhcpParseNetworkOption (code len : Nat) (val : Nat → UInt8) (dhcp : DhcpContext) : DhcpContext :=
  if code = 1 ∧ len = 4 then { dhcp with netmask := addrAt val 0 }
  else if code = 3 ∧ 4 ≤ len then { dhcp with gateway := addrAt val 0 }
  else if code = 6 ∧ 8 ≤ len then { dhcp with dnsPrimary := addrAt val 0, dnsSecondary := addrAt val 4 }
  else if code = 6 ∧ 4 ≤ len then { dhcp with dnsPrimary := addrAt val 0 }
  else if code = 54 ∧ len = 4 then { dhcp with serverIp := addrAt val 0 }
  else dhcp

def dhcpParseTimeOption (code len : Nat) (val : Nat → UInt8) (reply : DhcpReply) : DhcpReply :=
  if code = 53 ∧ len = 1 then { reply with msgType := (val 0).toNat }
  else if code = 51 ∧ len = 4 then { reply with leaseTime := be32 val 0 }
  else if code = 58 ∧ len = 4 then { reply with t1 := be32 val 0 }
  else if code = 59 ∧ len = 4 then { reply with t2 := be32 val 0 }
  else reply

/-- Every round moves the index on, so as many rounds as bytes are enough. -/
def dhcpParseOptions (data : Nat → UInt8) (length : Nat) :
    Nat → Nat → DhcpContext → DhcpReply → DhcpContext × DhcpReply
  | 0, _, dhcp, reply => (dhcp, reply)
  | fuel + 1, k, dhcp, reply =>
    if length ≤ k ∨ data k = 255 then (dhcp, reply)
    else if data k = 0 then dhcpParseOptions data length fuel (k + 1) dhcp reply
    else
      let len := (data (k + 1)).toNat
      if length ≤ k + 1 ∨ length < k + 2 + len then (dhcp, reply)
      else
        let val := fun m => data (k + 2 + m)
        dhcpParseOptions data length fuel (k + 2 + len)
          (dhcpParseNetworkOption (data k).toNat len val dhcp) (dhcpParseTimeOption (data k).toNat len val reply)

def dhcpValidateRxPacket (interface : Interface) (data : Nat → UInt8) (length : Nat) : Bool :=
  decide (240 ≤ length ∧ data 0 = 2 ∧ be32 data 4 = interface.dhcp.xid ∧ macAt data 28 = interface.macAddr ∧
    be32 data 236 = dhcpMagicCookie)

def DhcpContext.restart (dhcp : DhcpContext) (state : DhcpState) : DhcpContext :=
  { dhcp with state := state, retryElapsedMs := 0, currentRetryTimeout := 4000, retryCount := 0 }

def dhcpHandleSelectingState (i msgType : Nat) (data : Nat → UInt8) : StackM Unit :=
  if msgType = dhcpOffer then do
    updateDhcp i fun dhcp => { dhcp.restart .requesting with offeredIp := addrAt data 16 }
    ignore (dhcpSendMessage cfg env i dhcpRequest)
  else pure ()

variable (i : Nat)

def clearIpConfig : StackM Unit := do
  updateInterface i fun interface => { interface with ipAddr := zeroAddr, netmask := zeroAddr, gateway := zeroAddr }
  arpCacheInit cfg i

def dhcpHandleActiveState (reply : DhcpReply) (data : Nat → UInt8) : StackM Unit :=
  if reply.msgType = dhcpAck then do
    updateInterface i fun interface =>
      { interface with
        ipAddr := addrAt data 16, netmask := interface.dhcp.netmask, gateway := interface.dhcp.gateway,
        dnsPrimary := interface.dhcp.dnsPrimary, dnsSecondary := interface.dhcp.dnsSecondary }
    arpCacheInit cfg i
    let leaseTime := if reply.leaseTime ≠ 0 then reply.leaseTime else 3600
    updateDhcp i fun dhcp =>
      { dhcp with
        leaseTime := leaseTime, t1 := if reply.t1 ≠ 0 then reply.t1 else leaseTime / 2,
        t2 := if reply.t2 ≠ 0 then reply.t2 else u32 (leaseTime * 7) / 8, state := .bound,
        leaseElapsedTotalMs := 0, t1ElapsedMs := 0, t2ElapsedMs := 0 }
  else if reply.msgType = dhcpNak then do
    clearIpConfig cfg i
    updateDhcp i fun dhcp => { dhcp.restart .selecting with xid := u32 (dhcp.xid + 1) }
    ignore (dhcpSendMessage cfg env i dhcpDiscover)
  else pure ()

def dhcpRxCallback (payload : List UInt8) : StackM Unit := do
  let interface ← read fun net => net.interfaces i
  let data := fun k => payload.getD k 0
  if interface.dhcp.isActive = false ∨ dhcpValidateRxPacket interface data payload.length = false then pure ()
  else
    let parsed := dhcpParseOptions data payload.length payload.length 240 interface.dhcp ⟨0, 0, 0, 0⟩
    updateDhcp i fun _ => parsed.1
    match interface.dhcp.state with
    | .selecting => dhcpHandleSelectingState cfg env i parsed.2.msgType data
    | .requesting | .renewing | .rebinding => dhcpHandleActiveState cfg env i parsed.2 data
    | .init | .bound | .failed => pure ()

def dhcpStart : StackM Unit := do
  let ticks ← read Stack.systemTicks
  -- clearing the client clears the socket inside it, bound or not
  updateDhcp i fun _ =>
    { DhcpContext.zero with
      state := .init, isActive := true, xid := u32 (0x3F82A000 + ticks), currentRetryTimeout := 4000 }
  updateSocket (.dhcp i) fun _ => UdpContext.zero
  onError (udpOpen cfg (.dhcp i) dhcpClientPort) (updateDhcp i fun dhcp => { dhcp with isActive := false })
  clearIpConfig cfg i
  updateDhcp i fun dhcp => { dhcp with state := .selecting }
  dhcpSendMessage cfg env i dhcpDiscover

def dhcpStop : StackM Unit := do
  let dhcp ← read fun net => (net.interfaces i).dhcp
  if dhcp.isActive then
    updateDhcp i fun dhcp => { dhcp with isActive := false, state := .failed }
    ignore (udpClose cfg (.dhcp i))
  else pure ()

def dhcpHandleRetryExhausted : StackM Unit := do
  let dhcp ← read fun net => (net.interfaces i).dhcp
  match dhcp.state with
  | .selecting =>
    updateDhcp i fun dhcp => { dhcp with state := .failed }
    ignore (dhcpStop cfg i)
  | .requesting =>
    updateDhcp i fun dhcp =>
      { dhcp with xid := u32 (dhcp.xid + 1), retryCount := 0, currentRetryTimeout := 4000, state := .selecting }
    ignore (dhcpSendMessage cfg env i dhcpDiscover)
  | .renewing =>
    updateDhcp i fun dhcp => { dhcp with state := .rebinding, retryCount := 0, currentRetryTimeout := 4000 }
    ignore (dhcpSendMessage cfg env i dhcpRequest)
  | _ =>
    updateDhcp i fun dhcp =>
      { dhcp with state := .init, xid := u32 (dhcp.xid + 1), retryCount := 0, currentRetryTimeout := 4000 }
    clearIpConfig cfg i
    updateDhcp i fun dhcp => { dhcp with state := .selecting }
    ignore (dhcpSendMessage cfg env i dhcpDiscover)

def dhcpTickRetries (i elapsedMs : Nat) : StackM Unit := do
  let dhcp ← read fun net => (net.interfaces i).dhcp
  if dhcp.state = .selecting ∨ dhcp.state = .requesting ∨ dhcp.state = .renewing ∨ dhcp.state = .rebinding then
    let elapsed := u32 (dhcp.retryElapsedMs + elapsedMs)
    if dhcp.currentRetryTimeout ≤ elapsed then
      updateDhcp i fun dhcp => { dhcp with retryElapsedMs := 0 }
      if dhcp.retryCount < 4 then
        updateDhcp i fun dhcp =>
          { dhcp with retryCount := dhcp.retryCount + 1, currentRetryTimeout := u32 (dhcp.currentRetryTimeout * 2) }
        ignore (dhcpSendMessage cfg env i (if dhcp.state = .selecting then dhcpDiscover else dhcpRequest))
      else dhcpHandleRetryExhausted cfg env i
    else updateDhcp i fun dhcp => { dhcp with retryElapsedMs := elapsed }
  else pure ()

def dhcpHandleLeaseExpired : StackM Unit := do
  clearIpConfig cfg i
  updateDhcp i fun dhcp => { dhcp.restart .selecting with xid := u32 (dhcp.xid + 1) }
  ignore (dhcpSendMessage cfg env i dhcpDiscover)

def dhcpTickLease (i elapsedMs : Nat) : StackM Unit := do
  let dhcp ← read fun net => (net.interfaces i).dhcp
  if dhcp.state = .bound ∨ dhcp.state = .renewing ∨ dhcp.state = .rebinding then
    let total := u32 (dhcp.leaseElapsedTotalMs + elapsedMs)
    let t1Elapsed := u32 (dhcp.t1ElapsedMs + elapsedMs)
    let t2Elapsed := u32 (dhcp.t2ElapsedMs + elapsedMs)
    updateDhcp i fun dhcp =>
      { dhcp with leaseElapsedTotalMs := total, t1ElapsedMs := t1Elapsed, t2ElapsedMs := t2Elapsed }
    if u32 (dhcp.leaseTime * 1000) ≤ total then dhcpHandleLeaseExpired cfg env i
    else if dhcp.state = .bound ∧ u32 (dhcp.t1 * 1000) ≤ t1Elapsed then
      updateDhcp i fun dhcp => dhcp.restart .renewing
      ignore (dhcpSendMessage cfg env i dhcpRequest)
    else if dhcp.state = .renewing ∧ u32 (dhcp.t2 * 1000) ≤ t2Elapsed then
      updateDhcp i fun dhcp => dhcp.restart .rebinding
      ignore (dhcpSendMessage cfg env i dhcpRequest)
    else pure ()
  else pure ()

def dhcpTick (i elapsedMs : Nat) : StackM Unit := do
  let dhcp ← read fun net => (net.interfaces i).dhcp
  if dhcp.isActive = false then pure ()
  else
    dhcpTickRetries cfg env i elapsedMs
    dhcpTickLease cfg env i elapsedMs

end XSDK.Net
