import XSDK.Net.System

/-! What the calls of the stack do not touch: the size of the buffers and, outside the
receiving path, the datagrams handed up. -/
namespace XSDK.Net

open Library Prog

variable {cfg : Config} (env : Env) {I : Stack → Prop} {i j b : Nat}

/-- A property that packets and ARP caches have no part in, except for the size of a buffer. -/
structure Inner (I : Stack → Prop) : Prop where
  packet : ∀ net b p, p.capacity = (net.packetPool b).capacity → I net → I (net.setPacket b p)
  cache : ∀ net i cache, I net → I (net.setInterface i { net.interfaces i with arpCache := cache })
  ipv4Id : ∀ (net : Stack) id, I net → I { net with ipv4Id := id }

section Building

variable (h : Inner I)
include h

theorem updatePacket_steady {f : PacketBuffer → PacketBuffer} (same : ∀ p, (f p).capacity = p.capacity) :
    Steady I (updatePacket b f) :=
  .modify fun net hnet => h.packet net b _ (same _) hnet

theorem writeData_steady {k : Nat} {bytes : List UInt8} : Steady I (writeData b k bytes) :=
  updatePacket_steady h fun _ => rfl

theorem updateEntry_steady {f : ArpEntry → ArpEntry} : Steady I (updateEntry i j f) :=
  .modify fun net hnet => h.cache net i _ hnet

theorem packetAlloc_steady : Steady I (packetAlloc cfg) := by
  refine .bind .read fun net => .bind .reject fun _ => ?_
  split
  · exact .fail
  · exact .bind (updatePacket_steady h fun _ => rfl) fun _ => .pure

theorem packetRelease_steady : Steady I (packetRelease cfg b) :=
  .bind .read fun _ => .bind .reject fun _ => .bind .reject fun _ => .bind .reject
    fun _ => updatePacket_steady h fun _ => rfl

theorem packetSetLength_steady {length : Nat} : Steady I (packetSetLength b length) :=
  .bind .read fun _ => .bind .reject fun _ => updatePacket_steady h fun _ => rfl

variable {size : Nat}

theorem packetPush_steady : Steady I (packetPush b size) :=
  .bind .read fun _ => .bind .reject fun _ => updatePacket_steady h fun _ => rfl

theorem packetPull_steady : Steady I (packetPull b size) :=
  .bind .read fun _ => .bind .reject fun _ => updatePacket_steady h fun _ => rfl

theorem releaseParked_steady : Steady I (releaseParked cfg i j) := by
  refine .bind .read fun entry => ?_
  split
  · exact .pure
  · exact .bind (packetRelease_steady h).ignore fun _ => updateEntry_steady h

theorem arpEvict_steady : Steady I (arpEvict cfg i j) := .bind (releaseParked_steady h) fun _ => updateEntry_steady h

theorem arpCacheAllocateEntry_steady : Steady I (arpCacheAllocateEntry cfg i) := by
  refine .bind .read fun net => ?_
  split
  · exact .bind (updateEntry_steady h) fun _ => .pure
  · split
    · exact .bind (arpEvict_steady h) fun _ => .pure
    · split
      · exact .bind (arpEvict_steady h) fun _ => .pure
      · exact .pure

theorem arpPark_steady : Steady I (arpPark cfg i j b) := .bind (releaseParked_steady h) fun _ => updateEntry_steady h

theorem ipv4Build_steady {dest : Addr} {protocol : Nat} : Steady I (ipv4Build cfg i b dest protocol) := by
  refine .bind (packetPush_steady h) fun _ => .bind .read fun _ => ?_
  refine .bind (.modify fun net hnet => h.ipv4Id net _ hnet) fun _ => .bind (writeData_steady h) fun _ => ?_
  exact .ite (fun _ => updatePacket_steady h fun _ => rfl) fun _ => updatePacket_steady h fun _ => rfl

theorem udpBuild_steady {localPort remotePort : Nat} {remoteAddr : Addr} {payload : List UInt8} :
    Steady I (udpBuild i b localPort remoteAddr remotePort payload) := by
  refine .bind (updatePacket_steady h fun _ => rfl) fun _ => .bind (writeData_steady h) fun _ => ?_
  refine .bind (packetPush_steady h) fun _ => .bind (writeData_steady h) fun _ => .bind .read fun _ => ?_
  exact .ite (fun _ => updatePacket_steady h fun _ => rfl) fun _ => updatePacket_steady h fun _ => rfl

end Building

structure Apart (I : Stack → Prop) : Prop extends Inner I where
  transmitted : ∀ (net : Stack) frames, I net → I { net with transmitted := frames }

section Sending

variable (h : Apart I)
include h

theorem ethernetTx_steady {dest : Mac} {ethertype : Nat} : Steady I (ethernetTx cfg env i b dest ethertype) := by
  have pad : Steady I (ethernetPad b) := by
    refine .bind .read fun p => .ite (fun _ => ?_) fun _ => .pure
    exact .bind .reject fun _ => .bind (writeData_steady h.toInner) fun _ => packetSetLength_steady h.toInner
  have build : Steady I (ethernetBuild i b dest ethertype) :=
    .bind .read fun _ => .bind .reject fun _ => writeData_steady h.toInner
  have sent : Steady I (transmit env i b) :=
    .bind .read fun _ => .bind (.modify fun net hnet => h.transmitted net _ hnet) fun _ => .pure
  refine .bind (.onError ?_ (packetRelease_steady h.toInner)) fun _ => ?_
  · exact .bind .read fun _ => .bind .reject fun _ => .bind pad
      fun _ => .bind (packetPush_steady h.toInner) fun _ => build
  · exact .bind sent fun _ => .bind (packetRelease_steady h.toInner).ignore fun _ => .finish

theorem arpSend_steady {operation : Nat} {targetMac : Mac} {targetIp : Addr} :
    Steady I (arpSend cfg env i operation targetMac targetIp) := by
  refine .bind (packetAlloc_steady h.toInner) fun b => .bind (updatePacket_steady h.toInner fun _ => rfl) fun _ => ?_
  exact .bind .read fun _ => .bind (writeData_steady h.toInner) fun _ => ethernetTx_steady env h

theorem arpResolve_steady {ipAddr : Addr} : Steady I (arpResolve cfg env i ipAddr b) := by
  refine .ite (fun _ => ethernetTx_steady env h) fun _ => .ite (fun _ => ethernetTx_steady env h) fun _ => ?_
  refine .bind .read fun net => ?_
  split
  · exact ethernetTx_steady env h
  · split
    · exact arpPark_steady h.toInner
    · refine .bind (arpCacheAllocateEntry_steady h.toInner) fun found => ?_
      split
      · exact .bind (packetRelease_steady h.toInner).ignore fun _ => .fail
      · exact .bind .read fun _ => .bind (updateEntry_steady h.toInner) fun _ => (arpSend_steady env h).ignore

theorem ipv4Tx_steady {dest : Addr} {protocol : Nat} : Steady I (ipv4Tx cfg env i b dest protocol) :=
  .bind (ipv4Build_steady h.toInner) fun _ => .bind .read fun _ => arpResolve_steady env h

theorem udpSendTo_steady {s : SocketId} {remoteAddr : Addr} {remotePort : Nat} {payload : List UInt8} :
    Steady I (udpSendTo cfg env s remoteAddr remotePort payload) := by
  refine .bind .read fun net => .bind .reject fun _ => ?_
  split
  · exact .fail
  · refine .bind (packetAlloc_steady h.toInner) fun b => ?_
    refine .bind (.onError (udpBuild_steady h.toInner) (packetRelease_steady h.toInner)) fun _ => ?_
    exact ipv4Tx_steady env h

theorem dhcpSendMessage_steady {msgType : Nat} : Steady I (dhcpSendMessage cfg env i msgType) :=
  .bind .read fun _ => udpSendTo_steady env h

end Sending

structure Unaffected (I : Stack → Prop) : Prop where
  packet : ∀ net b p, p.capacity = (net.packetPool b).capacity → I net → I (net.setPacket b p)
  interface : ∀ net i interface, I net → I (net.setInterface i interface)
  transmitted : ∀ (net : Stack) frames, I net → I { net with transmitted := frames }
  overwritten : ∀ (net : Stack) lost, I net → I { net with overwritten := lost }
  ipv4Id : ∀ (net : Stack) id, I net → I { net with ipv4Id := id }

theorem Unaffected.apart (h : Unaffected I) : Apart I :=
  ⟨⟨h.packet, fun net i _ hnet => h.interface net i _ hnet, h.ipv4Id⟩, h.transmitted⟩

/- The DHCP client's callback. -/

section Callback

variable (h : Unaffected I)
include h

theorem updateInterface_steady {f : Interface → Interface} : Steady I (updateInterface i f) :=
  .modify fun net hnet => h.interface net i _ hnet

theorem updateDhcp_steady {f : DhcpContext → DhcpContext} : Steady I (updateDhcp i f) := updateInterface_steady h

theorem arpCacheInit_steady : Steady I (arpCacheInit cfg i) :=
  .bind (.modify fun net hnet => h.overwritten net _ hnet) fun _ => updateInterface_steady h

theorem clearIpConfig_steady : Steady I (clearIpConfig cfg i) :=
  .bind (updateInterface_steady h) fun _ => arpCacheInit_steady h

variable {data : Nat → UInt8}

theorem dhcpHandleSelectingState_steady {msgType : Nat} :
    Steady I (dhcpHandleSelectingState cfg env i msgType data) :=
  .ite (fun _ => .bind (updateDhcp_steady h) fun _ => (dhcpSendMessage_steady env h.apart).ignore) fun _ => .pure

theorem dhcpHandleActiveState_steady {reply : DhcpReply} : Steady I (dhcpHandleActiveState cfg env i reply data) := by
  refine .ite (fun _ => ?_) fun _ => .ite (fun _ => ?_) fun _ => .pure
  · exact .bind (updateInterface_steady h) fun _ => .bind (arpCacheInit_steady h) fun _ => updateDhcp_steady h
  · refine .bind (clearIpConfig_steady h) fun _ => .bind (updateDhcp_steady h) fun _ => ?_
    exact (dhcpSendMessage_steady env h.apart).ignore

theorem dhcpRxCallback_steady {payload : List UInt8} : Steady I (dhcpRxCallback cfg env i payload) := by
  refine .bind .read fun interface => .ite (fun _ => .pure) fun _ => .bind (updateDhcp_steady h) fun _ => ?_
  split
  · exact dhcpHandleSelectingState_steady env h
  all_goals first | exact dhcpHandleActiveState_steady env h | exact .pure

end Callback

theorem unaffected_received (received : List Datagram) : Unaffected fun net => net.received = received :=
  ⟨fun _ _ _ _ h => h, fun _ _ _ h => h, fun _ _ h => h, fun _ _ h => h, fun _ _ h => h⟩

/- The size of the buffers, in any run. -/

def Carved (net : Stack) : Prop := ∀ b, (net.packetPool b).capacity = packetFrameSize

theorem unaffected_carved : Unaffected Carved := by
  refine ⟨fun net b p same carved c => ?_, fun _ _ _ h => h, fun _ _ h => h, fun _ _ h => h, fun _ _ h => h⟩
  by_cases eq : c = b
  · subst eq
    simp [Stack.setPacket, same, carved c]
  · simp [Stack.setPacket, eq, carved c]

theorem updatePacket_carved {f : PacketBuffer → PacketBuffer} (same : ∀ p, (f p).capacity = p.capacity) :
    Keeps Carved (updatePacket b f) :=
  (updatePacket_steady unaffected_carved.apart.toInner same).keeps

theorem modify_carved {f : Stack → Stack} (same : ∀ net, (f net).packetPool = net.packetPool) :
    Keeps Carved (modify f : StackM Unit) :=
  .modify fun net carved b => (congrArg (fun pool => (pool b).capacity) (same net)).trans (carved b)

theorem release_carved : Keeps Carved (packetRelease cfg b) :=
  (packetRelease_steady unaffected_carved.apart.toInner).keeps

theorem pull_carved {size : Nat} : Keeps Carved (packetPull b size) :=
  (packetPull_steady unaffected_carved.apart.toInner).keeps

theorem trim_carved {length : Nat} : Keeps Carved (packetSetLength b length) :=
  (packetSetLength_steady unaffected_carved.apart.toInner).keeps

theorem send_carved {operation : Nat} {targetMac : Mac} {targetIp : Addr} :
    Keeps Carved (arpSend cfg env i operation targetMac targetIp) :=
  (arpSend_steady env unaffected_carved.apart).keeps

theorem updateEntry_carved {f : ArpEntry → ArpEntry} : Keeps Carved (updateEntry i j f) := modify_carved fun _ => rfl

theorem updateDhcp_carved {f : DhcpContext → DhcpContext} : Keeps Carved (updateDhcp i f) := modify_carved fun _ => rfl

theorem updateSocket_carved {s : SocketId} {f : UdpContext → UdpContext} : Keeps Carved (updateSocket s f) :=
  modify_carved fun _ => rfl

theorem dhcpSendMessage_carved {msgType : Nat} : Keeps Carved (dhcpSendMessage cfg env i msgType) :=
  (dhcpSendMessage_steady env unaffected_carved.apart).keeps

theorem clearIpConfig_carved : Keeps Carved (clearIpConfig cfg i) := (clearIpConfig_steady unaffected_carved).keeps

structure Portless (I : Stack → Prop) : Prop where
  socket : ∀ net s socket, I net → I (net.setSocket s socket)
  list : ∀ (net : Stack) head, I net → I { net with udpList := head }
  ephemeral : ∀ (net : Stack) port, I net → I { net with nextEphemeral := port }

theorem udpFind_portless {p : Stack → SocketId → Bool} : Keeps I (udpFind cfg p) := by
  refine .bind .read fun n => ?_
  split
  · exact .hang
  · exact .pure

variable {localPort : Nat} {srcIp : Addr}

theorem udpOpen_portless (h : Portless I) {s : SocketId} : Keeps I (udpOpen cfg s localPort) := by
  have inUse : ∀ port, Keeps I (portInUse cfg port) := fun _ => .bind udpFind_portless fun _ => .pure
  have ephemeral : ∀ start fuel, Keeps I (ephemeralPort cfg start fuel) := by
    intro start fuel
    induction fuel with
    | zero => exact .fail
    | succ fuel ih =>
      refine .bind .read fun testPort => .bind (.modify fun net hnet => h.ephemeral net _ hnet) fun _ => ?_
      exact .bind (inUse _) fun used => .ite (fun _ => .pure) fun _ => .ite (fun _ => .fail) fun _ => ih
  refine .bind (.bind .read fun start => .ite (fun _ => ephemeral _ _) fun _ => ?_) fun _ => ?_
  · exact .bind (inUse _) fun _ => .bind .reject fun _ => .pure
  · exact .modify fun net hnet => h.list _ _ (h.socket net s _ hnet)

theorem udpClose_portless (h : Portless I) {s : SocketId} : Keeps I (udpClose cfg s) := by
  have unlink : Keeps I (udpUnlink cfg s) := by
    refine .bind .read fun n => ?_
    split
    · exact .hang
    · exact .fail
    · exact .modify fun net hnet => h.list net _ hnet
    · exact .modify fun net hnet => h.socket net _ _ hnet
  exact .bind .read fun _ => .bind .reject fun _ => .bind unlink fun _ => .modify fun net hnet => h.socket net _ _ hnet

theorem portless_carved : Portless Carved := ⟨fun _ _ _ h => h, fun _ _ h => h, fun _ _ h => h⟩

theorem udpOpen_carved {s : SocketId} : Keeps Carved (udpOpen cfg s localPort) :=
  udpOpen_portless portless_carved

theorem udpClose_carved {s : SocketId} : Keeps Carved (udpClose cfg s) := udpClose_portless portless_carved

theorem dhcpStart_carved : Keeps Carved (dhcpStart cfg env i) := by
  refine .bind .read fun ticks => .bind updateDhcp_carved fun _ => .bind updateSocket_carved fun _ => ?_
  refine .bind (udpOpen_carved.onError updateDhcp_carved) fun _ => .bind clearIpConfig_carved fun _ => ?_
  exact .bind updateDhcp_carved fun _ => dhcpSendMessage_carved env

theorem dhcpStop_carved : Keeps Carved (dhcpStop cfg i) := by
  refine .bind .read fun dhcp => .ite (fun _ => ?_) fun _ => .pure
  exact .bind updateDhcp_carved fun _ => udpClose_carved.ignore

theorem dhcpTick_carved {elapsedMs : Nat} : Keeps Carved (dhcpTick cfg env i elapsedMs) := by
  have send : ∀ f msgType, Keeps Carved (updateDhcp i f >>= fun _ => ignore (dhcpSendMessage cfg env i msgType)) :=
    fun _ _ => .bind updateDhcp_carved fun _ => (dhcpSendMessage_carved env).ignore
  have exhausted : Keeps Carved (dhcpHandleRetryExhausted cfg env i) := by
    refine .bind .read fun dhcp => ?_
    split
    · exact .bind updateDhcp_carved fun _ => dhcpStop_carved.ignore
    · exact send _ _
    · exact send _ _
    · exact .bind updateDhcp_carved fun _ => .bind clearIpConfig_carved fun _ => send _ _
  have retries : Keeps Carved (dhcpTickRetries cfg env i elapsedMs) := by
    refine .bind .read fun dhcp => .ite (fun _ => .ite (fun _ => ?_) fun _ => updateDhcp_carved) fun _ => .pure
    exact .bind updateDhcp_carved fun _ => .ite (fun _ => send _ _) fun _ => exhausted
  have expired : Keeps Carved (dhcpHandleLeaseExpired cfg env i) := .bind clearIpConfig_carved fun _ => send _ _
  have lease : Keeps Carved (dhcpTickLease cfg env i elapsedMs) := by
    refine .bind .read fun dhcp => .ite (fun _ => .bind updateDhcp_carved fun _ => ?_) fun _ => .pure
    exact .ite (fun _ => expired) fun _ => .ite (fun _ => send _ _) fun _ => .ite (fun _ => send _ _) fun _ => .pure
  exact .bind .read fun dhcp => .ite (fun _ => .pure) fun _ => .bind retries fun _ => lease

theorem arpTick_carved : Keeps Carved (arpTick cfg i) := by
  refine forIndices_keeps fun j _ => .bind .read fun net => ?_
  dsimp only
  split
  · refine .ite (fun _ => .ite (fun _ => updateEntry_carved) fun _ => ?_) fun _ => .pure
    exact (arpEvict_steady unaffected_carved.apart.toInner).keeps
  · exact .ite (fun _ => updateEntry_carved) fun _ => .pure
  · exact .pure

theorem arpRx_carved : Keeps Carved (arpRx cfg env i b) := by
  have update : ∀ ipAddr macAddr, Keeps Carved (arpCacheUpdate cfg env i ipAddr macAddr) := by
    intro ipAddr macAddr
    have entry : Keeps Carved (arpEntryFor cfg i ipAddr) := by
      refine .bind .read fun net => ?_
      split
      · exact .pure
      · exact (arpCacheAllocateEntry_steady unaffected_carved.apart.toInner).keeps
    have parked : ∀ j, Keeps Carved (sendParked cfg env i j macAddr) := by
      intro j
      refine .bind .read fun entry => ?_
      split
      · exact .pure
      · exact .bind (ethernetTx_steady env unaffected_carved.apart).keeps.ignore fun _ => updateEntry_carved
    refine .bind entry fun found => ?_
    split
    · exact .pure
    · exact .bind .read fun _ => .bind updateEntry_carved fun _ => parked _
  refine .bind .read fun p => .bind .reject fun _ => .bind .reject fun _ => .bind .read fun interface => ?_
  refine .bind (.onlyIf (update _ _)) fun _ => .bind (.onlyIf (send_carved env).ignore) fun _ => ?_
  exact release_carved.ignore

theorem icmpRx_carved : Keeps Carved (icmpRx cfg env i b srcIp) := by
  have accept : Keeps Carved (icmpAccept i b) := .bind .read fun n => .bind .reject
    fun _ => .bind .reject fun _ => .reject
  have reply : Keeps Carved (icmpReply i b) := by
    refine .bind .read fun interface => .bind (updatePacket_carved fun _ => rfl) fun _ => ?_
    refine .bind (updatePacket_carved fun _ => rfl) fun _ => .ite (fun _ => ?_) fun _ => ?_
    all_goals exact updatePacket_carved fun _ => rfl
  exact .bind (accept.onError release_carved) fun _ => .bind reply
    fun _ => (ipv4Tx_steady env unaffected_carved.apart).keeps

theorem udpRx_carved : Keeps Carved (udpRx cfg env i b srcIp) := by
  have accept : Keeps Carved (udpAccept cfg i b srcIp) := by
    refine .bind .read fun n => .bind .reject fun _ => .bind .reject fun _ => .bind (.onlyIf trim_carved) fun _ => ?_
    refine .bind .reject fun _ => .bind udpFind_portless fun found => ?_
    split
    · exact .fail
    · exact .bind pull_carved fun _ => .pure
  have callback : ∀ datagram, Keeps Carved (udpCallback cfg env datagram) := by
    intro datagram
    refine .bind .read fun received => .bind (modify_carved fun _ => rfl) fun _ => ?_
    split
    · exact .pure
    · exact (dhcpRxCallback_steady env unaffected_carved).keeps.attempt
  refine .bind .read fun header => .bind (accept.onError release_carved) fun s => ?_
  refine .bind .read fun n => .ite (fun _ => .hang) fun _ => .bind (callback _) fun result => ?_
  exact .bind release_carved.ignore fun _ => .finish

theorem interfaceRxFrame_carved {frame : List UInt8} {rxFlags : Nat} :
    Keeps Carved (interfaceRxFrame cfg env i frame rxFlags) := by
  have ipv4 : ∀ b, Keeps Carved (ipv4Rx cfg env i b) := by
    intro b
    refine .bind .read fun n => .bind .reject fun _ => .bind .reject fun _ => .bind .reject fun _ => ?_
    refine .bind .reject fun _ => .bind .reject fun _ => .bind .reject fun _ => .bind .reject fun _ => ?_
    refine .bind .reject fun _ => .bind .reject fun _ => .bind pull_carved
      fun _ => .bind (.onlyIf trim_carved) fun _ => ?_
    exact .ite (fun _ => icmpRx_carved env) fun _ => .ite (fun _ => udpRx_carved env) fun _ => .fail
  have route : ∀ b, Keeps Carved (ethernetRx cfg env i b) := by
    intro b
    refine .bind .read fun n => .bind .reject fun _ => .bind .reject fun _ => .bind pull_carved fun _ => ?_
    exact .ite (fun _ => arpRx_carved env) fun _ => .ite (fun _ => ipv4 b) fun _ => .fail
  refine .bind .reject fun _ => .bind .reject
    fun _ => .bind (packetAlloc_steady unaffected_carved.apart.toInner).keeps fun b => ?_
  refine .bind .read fun capacity => .onError (.bind .reject fun _ => ?_) release_carved
  exact .bind (updatePacket_carved fun _ => rfl) fun _ => .bind (updatePacket_carved fun _ => rfl) fun _ => route b

theorem call_carved (op : Op) : Keeps Carved (call cfg env op) := by
  cases op with
  | interfaceAdd config =>
    refine .bind .read fun n => .bind .reject fun _ => .bind .reject
      fun _ => .bind (modify_carved fun _ => rfl) fun _ => ?_
    exact .bind (arpCacheInit_steady unaffected_carved).keeps fun _ => modify_carved fun _ => rfl
  | linkSet i isLinkUp => exact modify_carved fun _ => rfl
  | ipv4ConfigStatic i ipAddr netmask gateway =>
    refine .bind .reject fun _ => .bind (modify_carved fun _ => rfl) fun _ => forIndices_keeps fun _ _ => ?_
    exact .bind updateEntry_carved fun _ => (releaseParked_steady unaffected_carved.apart.toInner).keeps
  | udpOpen => exact udpOpen_carved
  | udpClose => exact udpClose_carved
  | udpSendTo => exact (udpSendTo_steady env unaffected_carved.apart).keeps
  | rxFrame => exact interfaceRxFrame_carved env
  | arpTick => exact arpTick_carved
  | dhcpStart => exact dhcpStart_carved env
  | dhcpStop => exact dhcpStop_carved
  | dhcpTick => exact dhcpTick_carved env
  | tick elapsedMs =>
    refine .bind .read fun n => .bind .reject fun _ => .bind (modify_carved fun _ => rfl) fun _ => ?_
    exact forIndices_keeps fun i _ => .bind arpTick_carved fun _ => dhcpTick_carved env
  | process polls =>
    have deliver : ∀ i frames, Keeps Carved (deliver cfg env i frames) := by
      intro i frames
      induction frames with
      | nil => exact .pure
      | cons frame rest ih => exact .bind (interfaceRxFrame_carved env).ignore fun _ => ih
    refine .bind .read fun n => .bind .reject fun _ => forIndices_keeps fun i _ => ?_
    refine .bind (deliver i _) fun _ => .bind .finish fun _ => forIndices_keeps fun j _ => ?_
    exact .bind .read fun entry => .ite (fun _ => .bind updateEntry_carved fun _ => (send_carved env).ignore)
      fun _ => .pure

theorem run_carved {net : Stack} {memory : Nat → Nat → UInt8} {trace : List (Transition Stack Op (Except Error Unit))}
    (run : (machine cfg env).Run (Stack.init memory) trace net) : Carved net :=
  run_keeps env (fun _ => rfl) (call_carved env) run

end XSDK.Net
