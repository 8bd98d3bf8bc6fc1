import XSDK.Net.Datagram
import XSDK.Net.Steady

/-! A datagram from the call that sends it to the callback that gets it, between two stacks. -/
namespace XSDK.Net

open Library Prog PacketBuffer
open List (append_assoc length_append)

variable {cfg : Config} {env : Env} {net net' : Stack} {i b : Nat} {p q : PacketBuffer}
variable {srcAddr destAddr : Addr} {srcPort destPort : Nat} {payload bytes : List UInt8} {s : SocketId}

/-- The frames in which a call to send leaves the stack, each with the address it is sent to:
at once when that is known, or when the reply for the waiting packet comes. -/
inductive SentFrame (cfg : Config) (env : Env) (net : Stack) (s : SocketId) (destAddr : Addr) (destPort : Nat)
    (payload : List UInt8) (i : Nat) (mac : Mac) (frame : Frame) : Prop
  | direct {result : Except Error Unit} {net' : Stack}
      (sent : udpSendTo cfg env s destAddr destPort payload net = some (result, net'))
      (known : destinationMac cfg net i (ipv4NextHop (net.interfaces i) destAddr) = some mac)
      (out : net'.transmitted = frame :: net.transmitted)
  | parked {result result' : Except Error Unit} {net' later later' : Stack} {b j : Nat}
      (sent : udpSendTo cfg env s destAddr destPort payload net = some (result, net'))
      (taken : nextFree cfg net = some b) (waits : net'.inUse b = true)
      (kept : later.packetPool b = net'.packetPool b) (pointer : (later.entry i j).pendingPacket = some b)
      (resolved : sendParked cfg env i j mac later = some (result', later'))
      (out : later'.transmitted = frame :: later.transmitted)

theorem Sends.frame {dest : Mac} {before : List Frame} {frame : Frame}
    (sends : Sends i dest bytes before (frame :: before)) :
    ∃ src, frame.bytes = packetFrame dest src bytes := by
  rcases sends with same | ⟨src, flags, sent⟩
  · exact absurd (congrArg List.length same) (by simp)
  · refine ⟨src, ?_⟩
    rw [(List.cons.inj sent).1]

theorem udpSendTo_closed (closed : (net.sockets s).hasNet = false) :
    udpSendTo cfg env s destAddr destPort payload net = some (.error .nullPointer, net) := by
  rw [udpSendTo, bind_ok _ (read_run _), reject_bind_pos _ (by simpa using closed)]
  rfl

theorem udpSendTo_full (initialized : net.isInitialized = true) (open_ : (net.sockets s).hasNet = true)
    (target : udpTarget net destAddr = some i) (full : nextFree cfg net = none) :
    udpSendTo cfg env s destAddr destPort payload net = some (.error .noPacketBuffer, net) := by
  rw [udpSendTo, bind_ok _ (read_run _), reject_bind_neg _ (by simp [open_]), id_eq, target]
  exact bind_error _ (packetAlloc_none initialized full)

theorem sendParked_sends {later : Stack} {j : Nat} {mac : Mac} (pointer : (later.entry i j).pendingPacket = some b)
    (carries : Carries 36 bytes (later.packetPool b)) (short : bytes.length ≤ 1500) :
    Triple (· = later) (sendParked cfg env i j mac) (fun _ s => Sends i mac bytes later.transmitted s.transmitted)
      (fun _ s => Sends i mac bytes later.transmitted s.transmitted) := by
  have same : later.setPacket b (later.packetPool b) = later := by
    rw [Stack.setPacket, Function.update_eq_self]
  have sends : Triple (· = later.setPacket b (later.packetPool b)) (ethernetTx cfg env i b mac ethertypeIpv4) _ _ :=
    ethernetTx_sends env mac carries short
  rw [same] at sends
  refine .bind (R := fun entry s => entry = later.entry i j ∧ s = later) (.read fun s hs => ⟨hs ▸ rfl, hs⟩)
    fun entry => .assuming fun eq => ?_
  rw [eq, pointer]
  exact .bind (sends.ignore (fun _ _ h => h) fun _ _ h => h) fun _ => .modify fun _ h => h

theorem sentFrame_bytes {mac : Mac} {frame : Frame} (owned : Owned cfg [] net) (carved : Carved net)
    (target : udpTarget net destAddr = some i) (udpTx : (net.interfaces i).checksumCaps.udpTx = false)
    (ipTx : (net.interfaces i).checksumCaps.ipTx = false) (short : payload.length ≤ 1472)
    (sent : SentFrame cfg env net s destAddr destPort payload i mac frame) :
    ∃ src, frame.bytes = packetFrame mac src (datagramPacket cfg net.ipv4Id (net.interfaces i).ipAddr destAddr
      (net.sockets s).localPort destPort payload) := by
  have fits : (datagramPacket cfg net.ipv4Id (net.interfaces i).ipAddr destAddr (net.sockets s).localPort destPort
      payload).length ≤ 1500 := by
    rw [length_datagramPacket]
    omega
  cases sent with
  | @direct result net' sent known out =>
    cases opened : (net.sockets s).hasNet with
    | false =>
      rw [udpSendTo_closed opened] at sent
      cases sent
      exact absurd (congrArg List.length out) (by simp)
    | true =>
      cases free : nextFree cfg net with
      | none =>
        rw [udpSendTo_full owned.initialized opened target free] at sent
        cases sent
        exact absurd (congrArg List.length out) (by simp)
      | some b =>
        obtain ⟨q, ran, -, carries⟩ := udpSendTo_run env destPort owned (carved b)
          opened target udpTx ipTx short free
        have known : destinationMac cfg (net.nextId.setPacket b q) i
            (ipv4NextHop (net.interfaces i) destAddr) = some mac :=
          known
        rw [ran, arpResolve_known known] at sent
        have sends := (ethernetTx_sends env mac carries fits).always rfl sent
        rw [out] at sends
        exact sends.frame
  | @parked result result' net' later later' b j sent taken waits kept pointer resolved out =>
    cases opened : (net.sockets s).hasNet with
    | false =>
      rw [udpSendTo_closed opened] at sent
      cases sent
      rw [(nextFree_spec taken).2] at waits
      cases waits
    | true =>
      obtain ⟨q, ran, owned', carries⟩ := udpSendTo_run env destPort owned (carved b)
        opened target udpTx ipTx short taken
      rw [ran] at sent
      have fixed : Fixed b q (net.nextId.setPacket b q) := packetPool_setPacket _ _ _
      have left : Left b q net' := (arpResolve_left carries.isInUse owned' fixed).always rfl sent
      have same : later.packetPool b = q := kept.trans (left waits)
      have sends := (sendParked_sends pointer (same ▸ carries) fits).always rfl resolved
      rw [out] at sends
      exact sends.frame

/- The way in. -/

def PacketBuffer.pulled (p : PacketBuffer) (size : Nat) : PacketBuffer :=
  { p with dataOffset := u32 (p.dataOffset + size), dataLength := p.dataLength - size }

theorem packetPull_run {size : Nat} (room : size ≤ p.dataLength) :
    packetPull b size (net.setPacket b p) = some (.ok (), net.setPacket b (p.pulled size)) := by
  rw [packetPull, bind_ok _ (read_run _), packetPool_setPacket, reject_bind_neg _ (by omega), updatePacket_run]
  rfl

theorem Carries.pull {offset size : Nat} {header rest : List UInt8} (carries : Carries offset (header ++ rest) p)
    (length : header.length = size) (small : offset + size < 2 ^ 32) :
    Carries (offset + size) rest (p.pulled size) where
  capacity := carries.capacity
  isInUse := carries.isInUse
  dataOffset := by
    change u32 (p.dataOffset + size) = _
    rw [carries.dataOffset, u32_of_lt small]
  bytes_eq := by
    refine bytes_pull carries.bytes_eq length ?_
    rw [carries.dataOffset, u32_of_lt small]

theorem Carries.trim {offset k : Nat} {kept cut : List UInt8} (carries : Carries offset (kept ++ cut) p)
    (length : kept.length = k) (fits : offset + k ≤ packetFrameSize) (net : Stack) (b : Nat) :
    ∃ q, onlyIf (k < p.dataLength) (packetSetLength b k) (net.setPacket b p) = some (.ok (), net.setPacket b q) ∧
      Carries offset kept q := by
  have total := carries.dataLength
  rw [length_append] at total
  by_cases longer : k < p.dataLength
  · have room : ¬p.capacity < u32 (p.dataOffset + k) := by
      rw [carries.capacity, carries.dataOffset, u32_of_lt (by simp only [packetFrameSize] at fits; omega)]
      omega
    refine ⟨{ p with dataLength := k }, ?_, carries.capacity, carries.isInUse, carries.dataOffset,
      bytes_trim carries.bytes_eq length⟩
    rw [onlyIf, if_pos longer, packetSetLength, bind_ok _ (read_run _), packetPool_setPacket, reject_bind_neg _ room,
      updatePacket_run]
  · have none : cut = [] := List.eq_nil_of_length_eq_zero (by omega)
    rw [none, List.append_nil] at carries
    refine ⟨p, ?_, carries⟩
    rw [onlyIf, if_neg longer]
    rfl

variable {mac src : Mac} {k : Nat}

variable {rest : List UInt8} {sock : SocketId} {frame : List UInt8}

theorem ethernetRx_fields
    (carries : Carries 0 (ethernetHeader mac src ethertypeIpv4 ++ rest) p) :
    macAt p.data 0 = mac ∧ be16 p.data 12 = ethertypeIpv4 ∧ ethernetHeaderSize ≤ p.dataLength := by
  refine ⟨?_, ?_, ?_⟩
  · apply macAt_of_split (a := []) (b := List.ofFn src ++ be16Bytes ethertypeIpv4 ++ rest) _ rfl
    rw [carries.bytes_eq, ethernetHeader]
    simp
  · have field := be16_of_split (p := p) (k := 12) (a := List.ofFn mac ++ List.ofFn src)
      (x := ethertypeIpv4) (b := rest)
      (by rw [carries.bytes_eq, ethernetHeader]) (by simp)
    exact field
  · rw [carries.dataLength, length_append, length_ethernetHeader]
    omega

theorem ethernetRx_refused
    (carries : Carries 0 (ethernetHeader mac src ethertypeIpv4 ++ rest) p)
    (refused : macAccepted (net.interfaces k) mac = false) :
    ethernetRx cfg env k b (net.setPacket b p) = some (.error .notFound, net.setPacket b p) := by
  obtain ⟨dest, -, long⟩ := ethernetRx_fields carries
  rw [ethernetRx, bind_ok _ (read_run _), reject_bind_neg _ (by simpa using long),
    reject_bind_pos _ (by simpa [dest] using refused)]
  rfl

theorem ethernetRx_ipv4 (cfg : Config) (env : Env) (net : Stack) (b : Nat)
    (carries : Carries 0 (ethernetHeader mac src ethertypeIpv4 ++ rest) p)
    (accepted : macAccepted (net.interfaces k) mac = true) :
    ∃ q, ethernetRx cfg env k b (net.setPacket b p) = ipv4Rx cfg env k b (net.setPacket b q) ∧ Carries 14 rest q := by
  obtain ⟨dest, ethertype, long⟩ := ethernetRx_fields carries
  refine ⟨_, ?_, carries.pull (length_ethernetHeader _ _ _) (by decide)⟩
  rw [ethernetRx, bind_ok _ (read_run _), reject_bind_neg _ (by simpa using long),
    reject_bind_neg _ (by simpa [dest] using accepted), bind_ok _ (packetPull_run long),
    if_neg (by simp [ethertype, ethertypeIpv4, ethertypeArp]), if_pos (by simpa using ethertype)]

theorem ipv4Rx_fields {id : Nat} {body rest : List UInt8} (short : body.length ≤ 1480)
    (carries : Carries 14 (ipv4Packet cfg id srcAddr destAddr body ++ rest) p) :
    p.data 0 = 0x45 ∧ be16 p.data 2 = body.length + ipv4HeaderMinSize ∧ be16 p.data 6 = 0 ∧
      (p.data 9).toNat = protocolUdp ∧ addrAt p.data 12 = srcAddr ∧ addrAt p.data 16 = destAddr ∧
      checksumCalculate p.data ipv4HeaderMinSize = 0 ∧
      p.dataLength = body.length + ipv4HeaderMinSize + rest.length := by
  have length := carries.dataLength
  rw [length_append, length_ipv4Packet] at length
  have bytes := carries.bytes_eq
  simp only [ipv4Packet, packetHeader] at bytes
  refine ⟨?_, ?_, ?_, ?_, ?_, ?_, ?_, length⟩
  · exact data_of_split (a := []) (by rw [bytes]; rfl) rfl
  · rw [be16_of_split (k := 2) (a := [0x45, 0x00]) (x := body.length + ipv4HeaderMinSize)
      (by rw [bytes]; simp only [append_assoc]; rfl) rfl]
    exact u16_of_lt (by rw [ipv4HeaderMinSize]; omega)
  · rw [be16_of_split (k := 6) (a := [0x45, 0x00] ++ be16Bytes (body.length + ipv4HeaderMinSize) ++ be16Bytes id) (x := 0)
      (by rw [bytes]; simp only [append_assoc]; rfl) (by simp)]
    rfl
  · rw [data_of_split (k := 9) (c := UInt8.ofNat protocolUdp)
      (a := [0x45, 0x00] ++ be16Bytes (body.length + ipv4HeaderMinSize) ++ be16Bytes id ++ be16Bytes 0 ++
        [UInt8.ofNat cfg.ipv4DefaultTtl]) (by rw [bytes]; simp; rfl) (by simp)]
    rfl
  · exact addrAt_of_split (a := [0x45, 0x00] ++ be16Bytes (body.length + ipv4HeaderMinSize) ++ be16Bytes id ++ be16Bytes 0 ++
        [UInt8.ofNat cfg.ipv4DefaultTtl, UInt8.ofNat protocolUdp] ++
        be16Bytes (headerChecksum cfg (body.length + ipv4HeaderMinSize) id srcAddr destAddr))
      (b := List.ofFn destAddr ++ body ++ rest) (by rw [bytes]; simp only [append_assoc]) (by simp)
  · exact addrAt_of_split (a := [0x45, 0x00] ++ be16Bytes (body.length + ipv4HeaderMinSize) ++ be16Bytes id ++ be16Bytes 0 ++
        [UInt8.ofNat cfg.ipv4DefaultTtl, UInt8.ofNat protocolUdp] ++
        be16Bytes (headerChecksum cfg (body.length + ipv4HeaderMinSize) id srcAddr destAddr) ++ List.ofFn srcAddr)
      (b := body ++ rest) (by rw [bytes]; simp only [append_assoc]) (by simp)
  · rw [ipv4Packet, append_assoc] at carries
    rw [carries.checksum (length_packetHeader _ _ _) (by decide), packetHeader_verifies]

theorem ipv4Rx_udp (cfg cfg' : Config) (env : Env) (net : Stack) (b : Nat) {ident k : Nat} {body rest : List UInt8}
    (short : body.length ≤ 1480) (carries : Carries 14 (ipv4Packet cfg' ident srcAddr destAddr body ++ rest) p)
    (ours : ipv4IsForUs (net.interfaces k) destAddr = true) (plain : (net.interfaces k).checksumCaps.ipRx = false) :
    ∃ q, ipv4Rx cfg env k b (net.setPacket b p) = udpRx cfg env k b srcAddr (net.setPacket b q) ∧
    Carries 34 body q := by
  obtain ⟨version, total, fragment, protocol, src, dest, checksum, length⟩ := ipv4Rx_fields short carries
  have pulled := carries
  rw [ipv4Packet, append_assoc] at pulled
  have inner := pulled.pull (length_packetHeader _ _ _) (by decide)
  obtain ⟨q, trimmed, carried⟩ := inner.trim (k := body.length) rfl
    (by rw [packetFrameSize, ipv4HeaderMinSize]; omega) net b
  refine ⟨q, ?_, carried⟩
  have ihl : (p.data 0).toNat % 16 = 5 := by rw [version]; rfl
  have fits : ipv4HeaderMinSize ≤ p.dataLength := by
    rw [length]
    omega
  have headerLen : (p.data 0).toNat % 16 * 4 = ipv4HeaderMinSize := by rw [ihl, ipv4HeaderMinSize]
  have payloadLen : be16 p.data 2 - ipv4HeaderMinSize = body.length := by
    rw [total]
    omega
  rw [ipv4Rx, bind_ok _ (read_run _)]
  generalize here : id (net.setPacket b p) = n
  have pool : n.packetPool b = p := by
    rw [← here]
    exact packetPool_setPacket net b p
  have interface : n.interfaces k = net.interfaces k := by rw [← here]; rfl
  rw [pool, interface]
  dsimp only
  rw [headerLen, payloadLen, src, dest, protocol]
  rw [reject_bind_neg _ (Nat.not_lt.mpr fits), reject_bind_neg _ (by rw [version]; decide),
    reject_bind_neg _ (by rw [ihl]; decide), reject_bind_neg _ (Nat.not_lt.mpr fits),
    reject_bind_neg _ (by rw [total, length]; omega), reject_bind_neg _ (by rw [ours]; decide),
    reject_bind_neg _ (by rw [checksum, plain]; simp [checksumFails]), reject_bind_neg _ (by rw [fragment]; decide),
    reject_bind_neg _ (by rw [ihl]; decide), bind_ok _ (packetPull_run fits)]
  have cut : onlyIf (body.length < p.dataLength - ipv4HeaderMinSize) (packetSetLength b body.length)
      (net.setPacket b (p.pulled ipv4HeaderMinSize)) = some (.ok (), net.setPacket b q) := trimmed
  rw [bind_ok _ cut, if_neg (by decide), if_pos rfl]

/- The socket. -/

theorem udpSearch_setPacket (test : SocketId → Bool) (fuel : Nat) (from_ : Option SocketId) :
    udpSearch (net.setPacket b p) test fuel from_ = udpSearch net test fuel from_ := by
  induction fuel generalizing from_ with
  | zero => cases from_ <;> rfl
  | succ fuel ih =>
    cases from_ with
    | none => rfl
    | some sock =>
      rw [udpSearch, udpSearch]
      split
      · rfl
      · exact ih _

def bound (cfg : Config) (net : Stack) (port : Nat) : Option (Option SocketId) :=
  udpSearch net (fun s => decide ((net.sockets s).localPort = port)) (socketFuel cfg) net.udpList

theorem udpFind_bound {port : Nat} {found : Option SocketId} (h : bound cfg net port = some found) :
    udpFind cfg (fun net s => decide ((net.sockets s).localPort = port)) (net.setPacket b p) =
      some (.ok found, net.setPacket b p) := by
  have search : udpSearch (net.setPacket b p) (fun s => decide (((net.setPacket b p).sockets s).localPort = port))
      (socketFuel cfg) (net.setPacket b p).udpList = some found := by
    rw [udpSearch_setPacket]
    exact h
  rw [udpFind, bind_ok _ (read_run _), id_eq, search]
  rfl

theorem udpRx_fields (short : payload.length ≤ 1472) (srcSmall : srcPort < 2 ^ 16) (destSmall : destPort < 2 ^ 16)
    (carries : Carries 34 (segment srcAddr destAddr srcPort destPort payload) p) :
    be16 p.data 0 = srcPort ∧ be16 p.data 2 = destPort ∧ be16 p.data 4 = payload.length + udpHeaderSize ∧
      be16 p.data 6 ≠ 0 ∧ p.dataLength = payload.length + udpHeaderSize := by
  have bytes := carries.bytes_eq
  simp only [segment, udpSegment] at bytes
  have length := carries.dataLength
  rw [segment, length_udpSegment] at length
  refine ⟨?_, ?_, ?_, ?_, length⟩
  · rw [be16_of_split (k := 0) (a := []) (x := srcPort) (by rw [bytes]; simp only [append_assoc]; rfl) rfl]
    exact u16_of_lt srcSmall
  · rw [be16_of_split (k := 2) (a := be16Bytes srcPort) (x := destPort)
      (by rw [bytes]; simp only [append_assoc]; rfl) (by simp)]
    exact u16_of_lt destSmall
  · rw [be16_of_split (k := 4) (a := be16Bytes srcPort ++ be16Bytes destPort) (x := payload.length + udpHeaderSize)
      (by rw [bytes]; simp only [append_assoc]; rfl) (by simp)]
    exact u16_of_lt (by rw [udpHeaderSize]; omega)
  · have positive := segmentChecksum_pos srcAddr destAddr srcPort destPort payload
    rw [be16_of_split (k := 6) (a := be16Bytes srcPort ++ be16Bytes destPort ++ be16Bytes (payload.length + udpHeaderSize))
      bytes (by simp), u16_of_lt (segmentChecksum_lt _ _ _ _ _)]
    omega

theorem checksum_zero_iff (ownAddr : Addr) (short : payload.length ≤ 1472)
    (carries : Carries 34 (segment srcAddr destAddr srcPort destPort payload) p) :
    checksumCalculatePseudo p.data (payload.length + udpHeaderSize) srcAddr ownAddr protocolUdp
        (payload.length + udpHeaderSize) = 0 ↔ addrSum destAddr % 65535 = addrSum ownAddr % 65535 := by
  have computed := carries.checksumPseudo srcAddr ownAddr
    (by rw [segment, length_udpSegment, udpHeaderSize]; omega)
  rw [segment, length_udpSegment, ← segment] at computed
  have positive : 0 < pseudoSum srcAddr ownAddr (payload.length + udpHeaderSize) +
      wordSum (segment srcAddr destAddr srcPort destPort payload) := by
    rw [pseudoSum, protocolUdp]
    omega
  have bound := foldedSum_le (pseudoSum srcAddr ownAddr (payload.length + udpHeaderSize) +
    wordSum (segment srcAddr destAddr srcPort destPort payload))
  rw [computed, ← segment_verifies_for ownAddr, ← foldedSum_eq_max positive]
  omega

theorem udpAccept_run (cfg : Config) (net : Stack) (b : Nat) (short : payload.length ≤ 1472)
    (srcSmall : srcPort < 2 ^ 16) (destSmall : destPort < 2 ^ 16)
    (carries : Carries 34 (segment srcAddr destAddr srcPort destPort payload) p)
    (plain : (net.interfaces k).checksumCaps.udpRx = false) (found : bound cfg net destPort = some (some sock)) :
    ∃ q, Carries 42 payload q ∧ udpAccept cfg k b srcAddr (net.setPacket b p) =
      if addrSum destAddr % 65535 = addrSum (net.interfaces k).ipAddr % 65535 then some (.ok sock, net.setPacket b q)
      else some (.error .checksumFailed, net.setPacket b p) := by
  obtain ⟨-, dest, udpLen, summed, length⟩ := udpRx_fields short srcSmall destSmall carries
  have verified := checksum_zero_iff (net.interfaces k).ipAddr short carries
  have inner := carries
  rw [segment, udpSegment] at inner
  have pulled : Carries (34 + udpHeaderSize) payload _ := inner.pull (by simp [udpHeaderSize]) (by decide)
  refine ⟨_, pulled, ?_⟩
  rw [udpAccept, bind_ok _ (read_run _)]
  generalize here : id (net.setPacket b p) = n
  have pool : n.packetPool b = p := by
    rw [← here]
    exact packetPool_setPacket net b p
  have interface : n.interfaces k = net.interfaces k := by rw [← here]; rfl
  rw [pool, interface]
  dsimp only
  rw [udpLen, dest, plain, length]
  have whole : onlyIf (payload.length + udpHeaderSize < payload.length + udpHeaderSize)
      (packetSetLength b (payload.length + udpHeaderSize)) = (pure () : StackM Unit) := if_neg (Nat.lt_irrefl _)
  rw [reject_bind_neg _ (by omega), reject_bind_neg _ (by omega), whole, pure_bind]
  split
  · next same =>
    rw [reject_bind_neg _ (by simp [checksumFails, verified.mpr same]), bind_ok _ (udpFind_bound found)]
    change (packetPull b udpHeaderSize >>= _) _ = _
    rw [bind_ok _ (packetPull_run (by rw [length]; omega))]
    rfl
  · next other =>
    have failed : checksumCalculatePseudo p.data (payload.length + udpHeaderSize) srcAddr (net.interfaces k).ipAddr
        protocolUdp (payload.length + udpHeaderSize) ≠ 0 := fun zero => other (verified.mp zero)
    rw [reject_bind_pos _ (by simp [checksumFails, failed, summed])]
    rfl

theorem release_received (cfg : Config) (b : Nat) (net : Stack) :
    ∃ r net', packetRelease cfg b net = some (r, net') ∧ net'.received = net.received :=
  packetRelease_steady (unaffected_received net.received).apart.toInner net rfl

theorem udpCallback_run (cfg : Config) (env : Env) (datagram : Datagram) (net : Stack) :
    ∃ r net', udpCallback cfg env datagram net = some (.ok r, net') ∧ net'.received = datagram :: net.received := by
  rw [udpCallback, bind_ok _ (read_run _), bind_ok _ (modify_run _)]
  cases datagram.socket with
  | user _ => exact ⟨_, _, rfl, rfl⟩
  | dhcp i =>
    have steady : Steady (fun n => n.received = datagram :: net.received) (dhcpRxCallback cfg env i datagram.payload) :=
      dhcpRxCallback_steady env (unaffected_received _)
    obtain ⟨r, net', run, same⟩ := steady { net with received := datagram :: net.received } rfl
    exact ⟨r, net', attempt_run run, same⟩

theorem udpRx_run (cfg : Config) (env : Env) (net : Stack) (b : Nat)
    (short : payload.length ≤ 1472) (srcSmall : srcPort < 2 ^ 16) (destSmall : destPort < 2 ^ 16)
    (carries : Carries 34 (segment srcAddr destAddr srcPort destPort payload) p)
    (plain : (net.interfaces k).checksumCaps.udpRx = false) (found : bound cfg net destPort = some (some sock))
    (callback : (net.sockets sock).hasCallback = true) :
    ∃ r net', udpRx cfg env k b srcAddr (net.setPacket b p) = some (r, net') ∧ net'.received =
      if addrSum destAddr % 65535 = addrSum (net.interfaces k).ipAddr % 65535 then
        ⟨sock, srcAddr, srcPort, payload⟩ :: net.received
      else net.received := by
  obtain ⟨src, -, -, -, -⟩ := udpRx_fields short srcSmall destSmall carries
  obtain ⟨q, carried, accept⟩ := udpAccept_run cfg net b short srcSmall destSmall carries plain found
  rw [udpRx, bind_ok _ (read_run _)]
  split at accept
  · next same =>
    obtain ⟨r, net', called, received⟩ := udpCallback_run cfg env ⟨sock, srcAddr, srcPort, payload⟩ (net.setPacket b q)
    obtain ⟨r', net'', released, kept⟩ := release_received cfg b net'
    rw [bind_ok _ (onError_ok _ accept), bind_ok _ (read_run _)]
    have called' : ¬((id (net.setPacket b q)).sockets sock).hasCallback = false := by
      change ¬(net.sockets sock).hasCallback = false
      simp [callback]
    have header : be16 ((net.setPacket b p).packetPool b).data 0 = srcPort := by rw [packetPool_setPacket, src]
    have content : ((id (net.setPacket b q)).packetPool b).bytes = payload := by
      rw [id_eq, packetPool_setPacket, carried.bytes_eq]
    rw [if_neg called', header, content, bind_ok _ called, bind_ok _ (ignore_run released)]
    have final : net''.received = ⟨sock, srcAddr, srcPort, payload⟩ :: net.received := kept.trans received
    rw [if_pos same]
    cases r with
    | ok _ => exact ⟨_, net'', rfl, final⟩
    | error _ => exact ⟨_, net'', rfl, final⟩
  · next other =>
    obtain ⟨r', net'', released, kept⟩ := release_received cfg b (net.setPacket b p)
    exact ⟨_, net'', bind_error _ (onError_error accept released), by rw [if_neg other]; exact kept⟩

def Delivers (cfg : Config) (env : Env) (k : Nat) (frame : List UInt8) (rxFlags : Nat) (peer : Stack)
    (datagram : Datagram) : Prop :=
  ∃ result peer', interfaceRxFrame cfg env k frame rxFlags peer = some (result, peer') ∧
    peer'.received = datagram :: peer.received

theorem interfaceRxFrame_full (env : Env) (initialized : net.isInitialized = true) (full : nextFree cfg net = none)
    (k rxFlags : Nat) (min : 60 ≤ frame.length) (max : frame.length ≤ 1514) :
    interfaceRxFrame cfg env k frame rxFlags net = some (.error .noPacketBuffer, net) := by
  rw [interfaceRxFrame, reject_bind_neg _ (by rw [ethernetMinFrameSize]; omega),
    reject_bind_neg _ (by rw [ethernetMtu, ethernetHeaderSize]; omega)]
  exact bind_error _ (packetAlloc_none initialized full)

theorem interfaceRxFrame_run (env : Env) (initialized : net.isInitialized = true) (carved : Carved net)
    (free : nextFree cfg net = some b) (k rxFlags : Nat) (min : 60 ≤ frame.length) (max : frame.length ≤ 1514) :
    ∃ q, Carries 0 frame q ∧ ∀ result net', ethernetRx cfg env k b (net.setPacket b q) = some (result, net') →
      ∃ r net'', interfaceRxFrame cfg env k frame rxFlags net = some (r, net'') ∧ net''.received = net'.received := by
  have small : ¬packetFrameSize < frame.length := by
    rw [packetFrameSize]
    omega
  have loaded : Carries 0 frame
      { PacketBuffer.write { net.packetPool b with isInUse := true, dataOffset := 0, dataLength := 0, flags := 0 } 0 frame with
        dataOffset := 0, dataLength := frame.length, flags := rxFlags } := by
    refine ⟨carved b, rfl, rfl, ?_⟩
    have empty : PacketBuffer.bytes { net.packetPool b with isInUse := true, dataOffset := 0, dataLength := 0, flags := 0 } = [] :=
      rfl
    exact bytes_extend empty frame (Nat.zero_add _)
  refine ⟨_, loaded, fun result net' run => ?_⟩
  obtain ⟨r', net'', released, kept⟩ := release_received cfg b net'
  have capacity : ((net.setPacket b { net.packetPool b with
      isInUse := true, dataOffset := 0, dataLength := 0, flags := 0 }).packetPool b).capacity = packetFrameSize := by
    rw [packetPool_setPacket]
    exact carved b
  rw [interfaceRxFrame, reject_bind_neg _ (by rw [ethernetMinFrameSize]; omega),
    reject_bind_neg _ (by rw [ethernetMtu, ethernetHeaderSize]; omega), bind_ok _ (packetAlloc_run initialized free),
    bind_ok _ (read_run _), capacity]
  dsimp only
  rw [reject_bind_neg _ small]
  have routed : (writeData b 0 frame >>= fun _ =>
      updatePacket b (fun p => { p with dataOffset := 0, dataLength := frame.length, flags := rxFlags }) >>= fun _ =>
        ethernetRx cfg env k b) (net.setPacket b { net.packetPool b with
          isInUse := true, dataOffset := 0, dataLength := 0, flags := 0 }) = some (result, net') := by
    rw [writeData, bind_ok _ (updatePacket_run _), bind_ok _ (updatePacket_run _)]
    exact run
  cases result with
  | ok _ => exact ⟨_, net', onError_ok _ routed, rfl⟩
  | error _ => exact ⟨_, net'', onError_error routed released, kept⟩

/-- A well-formed frame is delivered exactly if there is a buffer for it, it is addressed to
the interface, and the pseudo-header of the interface's own address verifies. -/
theorem delivers_iff (cfg cfg' : Config) (env : Env) {ident k rxFlags : Nat}
    (initialized : net.isInitialized = true) (carved : Carved net) (short : payload.length ≤ 1472)
    (srcSmall : srcPort < 2 ^ 16) (destSmall : destPort < 2 ^ 16)
    (ours : ipv4IsForUs (net.interfaces k) destAddr = true)
    (ipRx : (net.interfaces k).checksumCaps.ipRx = false) (udpRx : (net.interfaces k).checksumCaps.udpRx = false)
    (found : bound cfg net destPort = some (some sock)) (callback : (net.sockets sock).hasCallback = true) :
    Delivers cfg env k (packetFrame mac src (datagramPacket cfg' ident srcAddr destAddr srcPort destPort payload))
        rxFlags net ⟨sock, srcAddr, srcPort, payload⟩ ↔
      (∃ b < cfg.packetPoolSize, net.inUse b = false) ∧ macAccepted (net.interfaces k) mac = true ∧
        addrSum destAddr % 65535 = addrSum (net.interfaces k).ipAddr % 65535 := by
  have length : (packetFrame mac src (datagramPacket cfg' ident srcAddr destAddr srcPort destPort payload)).length =
      max 60 (payload.length + 42) := by
    rw [length_packetFrame, length_datagramPacket]
  have unchanged : ∀ {r net'}, interfaceRxFrame cfg env k (packetFrame mac src (datagramPacket cfg' ident srcAddr destAddr
      srcPort destPort payload)) rxFlags net = some (r, net') → net'.received = net.received →
      ¬Delivers cfg env k (packetFrame mac src (datagramPacket cfg' ident srcAddr destAddr srcPort destPort payload))
        rxFlags net ⟨sock, srcAddr, srcPort, payload⟩ := by
    rintro r net' run same ⟨r', peer', run', received⟩
    rw [run] at run'
    cases run'
    rw [same] at received
    exact absurd (congrArg List.length received) (by simp)
  cases free : nextFree cfg net with
  | none =>
    have full := interfaceRxFrame_full env initialized free k rxFlags (by rw [length]; omega) (by rw [length]; omega)
    refine iff_of_false (unchanged full rfl) ?_
    rintro ⟨⟨b, lt, unused⟩, -⟩
    have used := List.find?_eq_none.mp free b (List.mem_range.mpr lt)
    simp [unused] at used
  | some b =>
    obtain ⟨q, loaded, ran⟩ := interfaceRxFrame_run env initialized carved free k rxFlags (by rw [length]; omega)
      (by rw [length]; omega)
    cases accepted : macAccepted (net.interfaces k) mac with
    | false =>
      obtain ⟨r, net', run, same⟩ := ran _ _ (ethernetRx_refused loaded accepted)
      exact iff_of_false (unchanged run same) fun e => nomatch e.2.1
    | true =>
      obtain ⟨q₁, routed, carries₁⟩ := ethernetRx_ipv4 cfg env net b loaded accepted
      obtain ⟨q₂, stripped, carries₂⟩ := ipv4Rx_udp cfg cfg' env net b
        (by rw [length_segment, udpHeaderSize]; omega) carries₁ ours ipRx
      obtain ⟨r, net', delivered, received⟩ :=
        udpRx_run cfg env net b short srcSmall destSmall carries₂ udpRx found callback
      rw [← stripped, ← routed] at delivered
      obtain ⟨r', net'', run, same⟩ := ran _ _ delivered
      rw [received] at same
      split at same
      · next congruent =>
        exact iff_of_true ⟨r', net'', run, same⟩ ⟨⟨b, nextFree_spec free⟩, rfl, congruent⟩
      · next other => exact iff_of_false (unchanged run same) fun h => other h.2.2

/-- Between two stacks in any states they reach: the frame of a datagram, given to an
interface that accepts its destination, reaches the bound socket exactly if the receiver has
a free buffer, the frame is addressed to the interface, and the destination address has the
same one's complement sum as the interface's own address. -/
theorem datagram_round_trip {cfg cfg' : Config} {env env' : Env} {memory memory' : Nat → Nat → UInt8}
    {trace trace' : List (Transition Stack Op (Except Error Unit))} {net peer : Stack}
    (sender : (machine cfg env).Run (Stack.init memory) trace net)
    (receiver : (machine cfg' env').Run (Stack.init memory') trace' peer)
    {s sock : SocketId} {i k destPort rxFlags : Nat} {destAddr : Addr} {payload : List UInt8} {mac : Mac} {frame : Frame}
    (sent : SentFrame cfg env net s destAddr destPort payload i mac frame) (target : udpTarget net destAddr = some i)
    (short : payload.length ≤ 1472) (srcSmall : (net.sockets s).localPort < 2 ^ 16) (destSmall : destPort < 2 ^ 16)
    (ipTx : (net.interfaces i).checksumCaps.ipTx = false) (udpTx : (net.interfaces i).checksumCaps.udpTx = false)
    (ipRx : (peer.interfaces k).checksumCaps.ipRx = false) (udpRx : (peer.interfaces k).checksumCaps.udpRx = false)
    (ours : ipv4IsForUs (peer.interfaces k) destAddr = true) (found : bound cfg' peer destPort = some (some sock))
    (callback : (peer.sockets sock).hasCallback = true) :
    Delivers cfg' env' k frame.bytes rxFlags peer
        ⟨sock, (net.interfaces i).ipAddr, (net.sockets s).localPort, payload⟩ ↔
      (∃ b < cfg'.packetPoolSize, peer.inUse b = false) ∧ macAccepted (peer.interfaces k) mac = true ∧
        addrSum destAddr % 65535 = addrSum (peer.interfaces k).ipAddr % 65535 := by
  obtain ⟨src, bytes⟩ := sentFrame_bytes (run_owned env sender) (run_carved env sender) target udpTx ipTx short sent
  rw [bytes]
  exact delivers_iff cfg' cfg env' (run_owned env' receiver).initialized
    (run_carved env' receiver) short srcSmall destSmall
    ours ipRx udpRx found callback

section Sample

def sampleNeighbour : InterfaceConfig :=
  { sampleInterface with macAddr := ![2, 0, 0, 0, 0, 2], ipAddr := ![192, 168, 1, 3] }

/-- The sender learns the neighbour's address from a reply. -/
def sampleReply : List UInt8 :=
  ethernetHeader sampleInterface.macAddr sampleNeighbour.macAddr ethertypeArp ++
    arpBody arpOpReply sampleNeighbour.macAddr sampleNeighbour.ipAddr sampleInterface.macAddr sampleInterface.ipAddr ++
    List.replicate 18 0

def sampleSender : List Op :=
  [.interfaceAdd sampleInterface, .linkSet 0 true, .udpOpen 0 5000, .rxFrame 0 sampleReply 0]

def sampleReceiver : List Op := [.interfaceAdd sampleNeighbour, .linkSet 0 true, .udpOpen 0 9]

abbrev sampleNet : Stack := (machine sampleConfig sampleEnv).play sampleStart sampleSender
abbrev samplePeer : Stack := (machine sampleConfig sampleEnv).play sampleStart sampleReceiver

theorem sampleSender_legal : (machine sampleConfig sampleEnv).Legal sampleStart sampleSender := by
  refine ⟨?_, ?_, ?_, ?_, trivial⟩
  all_goals decide +kernel

theorem sampleReceiver_legal : (machine sampleConfig sampleEnv).Legal sampleStart sampleReceiver := by
  refine ⟨?_, ?_, ?_, trivial⟩
  all_goals decide +kernel

theorem sample_sends (destAddr : Addr) :
    (udpSendTo sampleConfig sampleEnv (.user 0) destAddr 9 [1, 2, 3] sampleNet).isSome = true := by
  have steady : Steady (fun _ => True) (udpSendTo sampleConfig sampleEnv (.user 0) destAddr 9 [1, 2, 3]) :=
    udpSendTo_steady sampleEnv ⟨⟨fun _ _ _ _ _ => trivial, fun _ _ _ _ => trivial, fun _ _ _ => trivial⟩,
      fun _ _ _ => trivial⟩
  obtain ⟨r, net', run, -⟩ := steady sampleNet trivial
  rw [run]
  rfl

def sampleSent (destAddr : Addr) : Except Error Unit × Stack :=
  (udpSendTo sampleConfig sampleEnv (.user 0) destAddr 9 [1, 2, 3] sampleNet).get (sample_sends destAddr)

def sampleFrame (destAddr : Addr) : Frame := (sampleSent destAddr).2.transmitted.headD ⟨0, [], 0⟩

theorem sampleFrame_sent {destAddr : Addr} (mac : Mac)
    (known : destinationMac sampleConfig sampleNet 0 (ipv4NextHop (sampleNet.interfaces 0) destAddr) = some mac)
    (out : (sampleSent destAddr).2.transmitted = sampleFrame destAddr :: sampleNet.transmitted) :
    SentFrame sampleConfig sampleEnv sampleNet (.user 0) destAddr 9 [1, 2, 3] 0 mac (sampleFrame destAddr) :=
  .direct (Option.some_get (sample_sends destAddr)).symm known out

theorem datagram_round_trip_sample :
    Delivers sampleConfig sampleEnv 0 (sampleFrame sampleNeighbour.ipAddr).bytes 0 samplePeer
      ⟨.user 0, (sampleNet.interfaces 0).ipAddr, (sampleNet.sockets (.user 0)).localPort, [1, 2, 3]⟩ :=
  (datagram_round_trip (Machine.run_of_legal sampleSender_legal) (Machine.run_of_legal sampleReceiver_legal)
    (sampleFrame_sent sampleNeighbour.macAddr (by decide +kernel) (by decide +kernel)) (by decide +kernel)
    (by decide) (by decide +kernel) (by decide) (by decide +kernel) (by decide +kernel) (by decide +kernel)
    (by decide +kernel) (by decide +kernel) (by decide +kernel) (by decide +kernel)).mpr
    ⟨⟨0, by decide, by decide +kernel⟩, by decide +kernel, by decide +kernel⟩

/-- The same datagram to 255.255.255.255 is refused by the neighbour's UDP layer, and the
callback does not get it. -/
theorem broadcast_refused :
    SentFrame sampleConfig sampleEnv sampleNet (.user 0) broadcastAddr 9 [1, 2, 3] 0 broadcastMac
      (sampleFrame broadcastAddr) ∧
      ipv4IsForUs (samplePeer.interfaces 0) broadcastAddr = true ∧
      ¬Delivers sampleConfig sampleEnv 0 (sampleFrame broadcastAddr).bytes 0 samplePeer
        ⟨.user 0, (sampleNet.interfaces 0).ipAddr, (sampleNet.sockets (.user 0)).localPort, [1, 2, 3]⟩ := by
  have sender := Machine.run_of_legal sampleSender_legal
  have receiver := Machine.run_of_legal sampleReceiver_legal
  have sent : SentFrame sampleConfig sampleEnv sampleNet (.user 0) broadcastAddr 9 [1, 2, 3] 0 broadcastMac
      (sampleFrame broadcastAddr) := sampleFrame_sent broadcastMac (by decide +kernel) (by decide +kernel)
  have ours : ipv4IsForUs (samplePeer.interfaces 0) broadcastAddr = true := by decide +kernel
  obtain ⟨src, bytes⟩ := sentFrame_bytes (run_owned sampleEnv sender) (run_carved sampleEnv sender) (by decide +kernel)
    (by decide +kernel) (by decide +kernel) (by decide) sent
  refine ⟨sent, ours, ?_⟩
  rw [bytes, delivers_iff sampleConfig sampleConfig sampleEnv (run_owned sampleEnv receiver).initialized
    (run_carved sampleEnv receiver) (by decide) (by decide +kernel) (by decide) ours (by decide +kernel) (by decide +kernel)
    (by decide +kernel) (by decide +kernel)]
  decide +kernel

end Sample

end XSDK.Net
