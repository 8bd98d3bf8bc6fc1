import XSDK.Net.Bytes
import XSDK.Net.System

/-! A datagram on its way out, byte by byte: the segment, the packet around it and the
frame around that. -/
namespace XSDK.Net

open Library Prog PacketBuffer

variable {cfg : Config} {env : Env} {net net' : Stack} {i b : Nat} {p q : PacketBuffer}
variable {srcAddr destAddr : Addr} {srcPort destPort : Nat} {payload bytes : List UInt8}

/- The bytes. -/

def udpSegment (srcPort destPort : Nat) (payload : List UInt8) (checksum : Nat) : List UInt8 :=
  be16Bytes srcPort ++ be16Bytes destPort ++ be16Bytes (payload.length + udpHeaderSize) ++ be16Bytes checksum ++ payload

def pseudoSum (srcAddr destAddr : Addr) (length : Nat) : Nat :=
  addrSum srcAddr + addrSum destAddr + protocolUdp + length

def segmentSum (srcAddr destAddr : Addr) (srcPort destPort : Nat) (payload : List UInt8) : Nat :=
  foldedSum (pseudoSum srcAddr destAddr (payload.length + udpHeaderSize) + wordSum (udpSegment srcPort destPort payload 0))

def segmentChecksum (srcAddr destAddr : Addr) (srcPort destPort : Nat) (payload : List UInt8) : Nat :=
  if 65535 - segmentSum srcAddr destAddr srcPort destPort payload = 0 then 0xFFFF
  else 65535 - segmentSum srcAddr destAddr srcPort destPort payload

def segment (srcAddr destAddr : Addr) (srcPort destPort : Nat) (payload : List UInt8) : List UInt8 :=
  udpSegment srcPort destPort payload (segmentChecksum srcAddr destAddr srcPort destPort payload)

def packetHeader (cfg : Config) (totalLen id : Nat) (srcAddr destAddr : Addr) (checksum : Nat) : List UInt8 :=
  [0x45, 0x00] ++ be16Bytes totalLen ++ be16Bytes id ++ be16Bytes 0 ++
    [UInt8.ofNat cfg.ipv4DefaultTtl, UInt8.ofNat protocolUdp] ++ be16Bytes checksum ++ List.ofFn srcAddr ++ List.ofFn destAddr

def headerChecksum (cfg : Config) (totalLen id : Nat) (srcAddr destAddr : Addr) : Nat :=
  65535 - foldedSum (wordSum (packetHeader cfg totalLen id srcAddr destAddr 0))

def ipv4Packet (cfg : Config) (id : Nat) (srcAddr destAddr : Addr) (body : List UInt8) : List UInt8 :=
  packetHeader cfg (body.length + ipv4HeaderMinSize) id srcAddr destAddr
    (headerChecksum cfg (body.length + ipv4HeaderMinSize) id srcAddr destAddr) ++ body

def padding (bytes : List UInt8) : List UInt8 := List.replicate (46 - bytes.length) 0

variable (dest src : Mac)

def packetFrame (packet : List UInt8) : List UInt8 :=
  ethernetHeader dest src ethertypeIpv4 ++ (packet ++ padding packet)

def datagramPacket (cfg : Config) (ident : Nat) (srcAddr destAddr : Addr) (srcPort destPort : Nat)
    (payload : List UInt8) : List UInt8 :=
  ipv4Packet cfg ident srcAddr destAddr (segment srcAddr destAddr srcPort destPort payload)

theorem length_udpSegment (checksum : Nat) :
    (udpSegment srcPort destPort payload checksum).length = payload.length + udpHeaderSize := by
  simp only [udpSegment, List.length_append, length_be16Bytes, udpHeaderSize]
  omega

theorem length_packetHeader (totalLen id checksum : Nat) :
    (packetHeader cfg totalLen id srcAddr destAddr checksum).length = ipv4HeaderMinSize := by
  simp [packetHeader, ipv4HeaderMinSize]

theorem length_ethernetHeader (ethertype : Nat) :
    (ethernetHeader dest src ethertype).length = ethernetHeaderSize := by
  simp [ethernetHeader, ethernetHeaderSize]

theorem length_ipv4Packet (id : Nat) (body : List UInt8) :
    (ipv4Packet cfg id srcAddr destAddr body).length = body.length + ipv4HeaderMinSize := by
  rw [ipv4Packet, List.length_append, length_packetHeader, Nat.add_comm]

theorem length_segment :
    (segment srcAddr destAddr srcPort destPort payload).length = payload.length + udpHeaderSize := by
  rw [segment, length_udpSegment]

theorem length_datagramPacket (ident : Nat) :
    (datagramPacket cfg ident srcAddr destAddr srcPort destPort payload).length = payload.length + 28 := by
  rw [datagramPacket, length_ipv4Packet, length_segment, udpHeaderSize, ipv4HeaderMinSize]

theorem length_packetFrame {dest src : Mac} (packet : List UInt8) :
    (packetFrame dest src packet).length = max 60 (packet.length + 14) := by
  simp only [packetFrame, List.length_append, length_ethernetHeader, padding, List.length_replicate, ethernetHeaderSize]
  omega

theorem segmentChecksum_pos (srcAddr destAddr : Addr) (srcPort destPort : Nat) (payload : List UInt8) :
    0 < segmentChecksum srcAddr destAddr srcPort destPort payload := by
  rw [segmentChecksum]
  split <;> omega

theorem segmentChecksum_lt (srcAddr destAddr : Addr) (srcPort destPort : Nat) (payload : List UInt8) :
    segmentChecksum srcAddr destAddr srcPort destPort payload < 2 ^ 16 := by
  rw [segmentChecksum]
  split <;> omega

theorem wordSum_checksum (before after : List UInt8) {checksum : Nat} (even : before.length % 2 = 0)
    (small : checksum < 2 ^ 16) :
    wordSum (before ++ be16Bytes checksum ++ after) = wordSum (before ++ be16Bytes 0 ++ after) + checksum := by
  have tail : ∀ x, x < 2 ^ 16 → wordSum (before ++ be16Bytes x ++ after) = wordSum before + (x + wordSum after) := by
    intro x h
    rw [List.append_assoc, wordSum_append before _ even, wordSum_append (be16Bytes x) after (by simp), wordSum_be16Bytes,
      u16_of_lt h]
  rw [tail checksum small, tail 0 (by omega)]
  omega

theorem wordSum_segment :
    wordSum (segment srcAddr destAddr srcPort destPort payload) =
      wordSum (udpSegment srcPort destPort payload 0) + segmentChecksum srcAddr destAddr srcPort destPort payload :=
  wordSum_checksum _ _ (by simp) (segmentChecksum_lt _ _ _ _ _)

theorem segment_verifies (srcAddr destAddr : Addr) (srcPort destPort : Nat) (payload : List UInt8) :
    (pseudoSum srcAddr destAddr (payload.length + udpHeaderSize) +
      wordSum (segment srcAddr destAddr srcPort destPort payload)) % 65535 = 0 := by
  have complement := add_complement_mod
    (pseudoSum srcAddr destAddr (payload.length + udpHeaderSize) + wordSum (udpSegment srcPort destPort payload 0))
  rw [wordSum_segment, segmentChecksum]
  rw [← segmentSum] at complement
  split
  · next zero =>
    rw [zero] at complement
    omega
  · omega

theorem segment_verifies_for (ownAddr : Addr) :
    (pseudoSum srcAddr ownAddr (payload.length + udpHeaderSize) +
      wordSum (segment srcAddr destAddr srcPort destPort payload)) % 65535 = 0 ↔
      addrSum destAddr % 65535 = addrSum ownAddr % 65535 := by
  have verified := segment_verifies srcAddr destAddr srcPort destPort payload
  simp only [pseudoSum] at verified ⊢
  omega

theorem packetHeader_verifies (totalLen id : Nat) :
    foldedSum (wordSum (packetHeader cfg totalLen id srcAddr destAddr (headerChecksum cfg totalLen id srcAddr destAddr))) =
      65535 := by
  have split : ∀ checksum, packetHeader cfg totalLen id srcAddr destAddr checksum =
      ([0x45, 0x00] ++ be16Bytes totalLen ++ be16Bytes id ++ be16Bytes 0 ++
        [UInt8.ofNat cfg.ipv4DefaultTtl, UInt8.ofNat protocolUdp]) ++ be16Bytes checksum ++
        (List.ofFn srcAddr ++ List.ofFn destAddr) := by
    intro checksum
    simp [packetHeader]
  have small : headerChecksum cfg totalLen id srcAddr destAddr < 2 ^ 16 := by
    rw [headerChecksum]
    omega
  have sum := wordSum_checksum ([0x45, 0x00] ++ be16Bytes totalLen ++ be16Bytes id ++ be16Bytes 0 ++
    [UInt8.ofNat cfg.ipv4DefaultTtl, UInt8.ofNat protocolUdp]) (List.ofFn srcAddr ++ List.ofFn destAddr) (by simp) small
  rw [← split, ← split] at sum
  have version : 0 < wordSum (packetHeader cfg totalLen id srcAddr destAddr 0) := by
    simp only [packetHeader, List.cons_append, wordSum_cons_cons]
    have high : (0x45 : UInt8).toNat = 69 := rfl
    omega
  rw [sum, foldedSum_eq_max (by omega)]
  exact add_complement_mod _

/- Building it in a packet. -/

structure Carries (offset : Nat) (bytes : List UInt8) (p : PacketBuffer) : Prop where
  capacity : p.capacity = packetFrameSize
  isInUse : p.isInUse = true
  dataOffset : p.dataOffset = offset
  bytes_eq : p.bytes = bytes

variable {offset : Nat} {body : List UInt8} {ipAddr : Addr} {s : SocketId}

theorem Carries.dataLength (carries : Carries offset bytes p) : p.dataLength = bytes.length := by
  rw [← length_bytes, carries.bytes_eq]

@[simp] theorem packetPool_setPacket (net : Stack) (b : Nat) (p : PacketBuffer) :
    (net.setPacket b p).packetPool b = p := by
  simp [Stack.setPacket]

@[simp] theorem interfaces_setPacket (net : Stack) (b : Nat) (p : PacketBuffer) :
    (net.setPacket b p).interfaces = net.interfaces := rfl

@[simp] theorem setPacket_setPacket (net : Stack) (b : Nat) (p q : PacketBuffer) :
    (net.setPacket b p).setPacket b q = net.setPacket b q := by
  simp [Stack.setPacket]

theorem updatePacket_run (f : PacketBuffer → PacketBuffer) :
    updatePacket b f (net.setPacket b p) = some (.ok (), net.setPacket b (f p)) := by
  rw [updatePacket, modify_run, packetPool_setPacket, setPacket_setPacket]

def PacketBuffer.pushed (p : PacketBuffer) (size : Nat) : PacketBuffer :=
  { p with dataOffset := p.dataOffset - size, dataLength := u32 (p.dataLength + size) }

theorem packetPush_run {size : Nat} (room : size ≤ p.dataOffset) :
    packetPush b size (net.setPacket b p) = some (.ok (), net.setPacket b (p.pushed size)) := by
  rw [packetPush, bind_ok _ (read_run _), packetPool_setPacket, reject_bind_neg _ (by omega), updatePacket_run]
  rfl

theorem Carries.push {offset size : Nat} (carries : Carries offset bytes p) (header : List UInt8) (room : size ≤ offset)
    (small : bytes.length + size < 2 ^ 32) (length : header.length = size) :
    Carries (offset - size) (header ++ bytes) ((p.pushed size).write 0 header) where
  capacity := carries.capacity
  isInUse := carries.isInUse
  dataOffset := congrArg (· - size) carries.dataOffset
  bytes_eq := by
    rw [← carries.bytes_eq]
    exact bytes_push (carries.dataOffset ▸ room) (carries.dataLength ▸ small) length

theorem Carries.splice {offset k : Nat} {before old after : List UInt8}
    (carries : Carries offset (before ++ old ++ after) p) (new : List UInt8) (at_end : before.length = k)
    (same : new.length = old.length) :
    Carries offset (before ++ new ++ after) (p.write k new) :=
  ⟨carries.capacity, carries.isInUse, carries.dataOffset, bytes_splice carries.bytes_eq at_end same⟩

theorem Carries.checksumPseudo (carries : Carries offset bytes p) (srcAddr destAddr : Addr)
    (small : bytes.length < 2 ^ 16) :
    checksumCalculatePseudo p.data bytes.length srcAddr destAddr protocolUdp bytes.length =
      65535 - foldedSum (pseudoSum srcAddr destAddr bytes.length + wordSum bytes) := by
  have summed : (List.range bytes.length).map p.data = bytes := by
    rw [← carries.dataLength, ← PacketBuffer.bytes, carries.bytes_eq]
  rw [checksumCalculatePseudo_eq small (by decide) small, summed, pseudoSum]

theorem Carries.checksum {offset k : Nat} {header rest : List UInt8} (carries : Carries offset (header ++ rest) p)
    (length : header.length = k) (small : k < 2 ^ 16) :
    checksumCalculate p.data k = 65535 - foldedSum (wordSum header) := by
  have summed : (List.range k).map p.data = header := bytes_trim carries.bytes_eq length
  rw [checksumCalculate_eq small, summed]

def PacketBuffer.loaded (p : PacketBuffer) (payload : List UInt8) : PacketBuffer :=
  { p with dataOffset := 64, dataLength := u32 payload.length }.write 0 payload

theorem carries_loaded (capacity : p.capacity = packetFrameSize) (used : p.isInUse = true)
    (short : payload.length ≤ 1472) : Carries 64 payload (p.loaded payload) := by
  refine ⟨capacity, used, rfl, ?_⟩
  have small : u32 payload.length = payload.length := u32_of_lt (by omega)
  have old : { p with dataOffset := 64, dataLength := u32 payload.length }.bytes =
      [] ++ { p with dataOffset := 64, dataLength := u32 payload.length }.bytes ++ [] := by simp
  have same : payload.length = { p with dataOffset := 64, dataLength := u32 payload.length }.bytes.length := by
    rw [length_bytes]
    exact small.symm
  have spliced := bytes_splice (k := 0) old rfl same
  rw [PacketBuffer.loaded, spliced]
  simp

/-- The segment stands in the packet, and its checksum follows unless the interface computes it. -/
theorem udpBuild_headed (net : Stack) (b srcPort : Nat) (destAddr : Addr) (destPort : Nat)
    (capacity : p.capacity = packetFrameSize) (used : p.isInUse = true) (short : payload.length ≤ 1472) :
    ∃ q, Carries 56 (udpSegment srcPort destPort payload 0) q ∧
      udpBuild i b srcPort destAddr destPort payload (net.setPacket b p) = some (.ok (), net.setPacket b
        (if (net.interfaces i).checksumCaps.udpTx then { q with flags := q.flags ||| 0x02 }
        else q.write 6 (be16Bytes (segmentChecksum (net.interfaces i).ipAddr destAddr srcPort destPort payload)))) := by
  have totLen : u16 (payload.length + udpHeaderSize) = payload.length + udpHeaderSize :=
    u16_of_lt (by rw [udpHeaderSize]; omega)
  have payload_in := carries_loaded capacity used short
  have length : (udpHeader srcPort destPort (payload.length + udpHeaderSize)).length = udpHeaderSize := by
    simp [udpHeader, udpHeaderSize]
  have header_in := payload_in.push _ (by decide) (by rw [udpHeaderSize]; omega) length
  have unsummed : udpHeader srcPort destPort (payload.length + udpHeaderSize) ++ payload =
      udpSegment srcPort destPort payload 0 := rfl
  rw [unsummed] at header_in
  have checksum := header_in.checksumPseudo (net.interfaces i).ipAddr destAddr
    (by rw [length_udpSegment, udpHeaderSize]; omega)
  rw [length_udpSegment, ← segmentSum] at checksum
  refine ⟨_, header_in, ?_⟩
  have start : updatePacket b (fun p => { p with dataOffset := 64, dataLength := u32 payload.length }) (net.setPacket b p) =
      some (.ok (), net.setPacket b { p with dataOffset := 64, dataLength := u32 payload.length }) := updatePacket_run _
  have room : udpHeaderSize ≤ (p.loaded payload).dataOffset := by
    rw [payload_in.dataOffset]
    decide
  rw [udpBuild, bind_ok _ start, writeData, bind_ok _ (updatePacket_run _), ← PacketBuffer.loaded,
    bind_ok _ (packetPush_run room), totLen, writeData, bind_ok _ (updatePacket_run _), bind_ok _ (read_run _)]
  by_cases hardware : (net.interfaces i).checksumCaps.udpTx = true
  · rw [if_pos hardware]
    change (if (net.interfaces i).checksumCaps.udpTx = true then _ else _ : StackM Unit) _ = _
    rw [if_pos hardware, updatePacket_run]
  · rw [if_neg hardware]
    change (if (net.interfaces i).checksumCaps.udpTx = true then _ else _ : StackM Unit) _ = _
    rw [if_neg hardware, updatePacket_run]
    simp only [interfaces_setPacket, checksum, segmentChecksum]

theorem udpBuild_run (net : Stack) (b srcPort : Nat) (destAddr : Addr) (destPort : Nat)
    (capacity : p.capacity = packetFrameSize) (used : p.isInUse = true)
    (short : payload.length ≤ 1472) (plain : (net.interfaces i).checksumCaps.udpTx = false) :
    ∃ q, udpBuild i b srcPort destAddr destPort payload (net.setPacket b p) = some (.ok (), net.setPacket b q) ∧
      Carries 56 (segment (net.interfaces i).ipAddr destAddr srcPort destPort payload) q := by
  obtain ⟨q, header_in, run⟩ := udpBuild_headed (i := i) net b srcPort destAddr destPort capacity used short
  rw [if_neg (by simp [plain])] at run
  exact ⟨_, run, header_in.splice (k := 6) _ (by simp) (by simp)⟩

def Stack.nextId (net : Stack) : Stack := { net with ipv4Id := u16 (net.ipv4Id + 1) }

theorem packetHeader_split (cfg : Config) (totalLen id : Nat) (srcAddr destAddr : Addr)
    (checksum : Nat) (body : List UInt8) :
    packetHeader cfg totalLen id srcAddr destAddr checksum ++ body =
      ([0x45, 0x00] ++ be16Bytes totalLen ++ be16Bytes id ++ be16Bytes 0 ++
        [UInt8.ofNat cfg.ipv4DefaultTtl, UInt8.ofNat protocolUdp]) ++ be16Bytes checksum ++
        (List.ofFn srcAddr ++ List.ofFn destAddr ++ body) := by
  simp [packetHeader]

theorem ipv4Build_headed (cfg : Config) (net : Stack) (b : Nat) (destAddr : Addr) (carries : Carries 56 body p)
    (short : body.length ≤ 1480) :
    ∃ q, Carries 36 (packetHeader cfg (body.length + ipv4HeaderMinSize) net.ipv4Id (net.interfaces i).ipAddr destAddr 0 ++ body) q ∧
      ipv4Build cfg i b destAddr protocolUdp (net.setPacket b p) = some (.ok (), net.nextId.setPacket b
        (if (net.interfaces i).checksumCaps.ipTx then { q with flags := q.flags ||| 0x01 }
        else q.write 10 (be16Bytes (headerChecksum cfg (body.length + ipv4HeaderMinSize) net.ipv4Id
          (net.interfaces i).ipAddr destAddr)))) := by
  have room : ipv4HeaderMinSize ≤ p.dataOffset := by
    rw [carries.dataOffset]
    decide
  have totalLen : (p.pushed ipv4HeaderMinSize).dataLength = body.length + ipv4HeaderMinSize := by
    change u32 (p.dataLength + ipv4HeaderMinSize) = _
    rw [carries.dataLength, u32_of_lt (by rw [ipv4HeaderMinSize]; omega)]
  have header_in := carries.push
    (packetHeader cfg (body.length + ipv4HeaderMinSize) net.ipv4Id (net.interfaces i).ipAddr destAddr 0)
    (by decide) (by rw [ipv4HeaderMinSize]; omega) (length_packetHeader _ _ _)
  have checksum := header_in.checksum (length_packetHeader _ _ _) (by decide)
  rw [← headerChecksum] at checksum
  refine ⟨_, header_in, ?_⟩
  have unsummed : ipv4Header cfg (body.length + ipv4HeaderMinSize) net.ipv4Id protocolUdp
      (net.interfaces i).ipAddr destAddr =
      packetHeader cfg (body.length + ipv4HeaderMinSize) net.ipv4Id (net.interfaces i).ipAddr destAddr 0 := by
    simp [ipv4Header, packetHeader, be16Bytes]
  have counted : ∀ q, modify (fun net : Stack => { net with ipv4Id := u16 (net.ipv4Id + 1) }) (net.setPacket b q) =
      (some (.ok (), net.nextId.setPacket b q) : Option (Except Error Unit × Stack)) := fun _ => rfl
  have header : ipv4Header cfg ((net.setPacket b (p.pushed ipv4HeaderMinSize)).packetPool b).dataLength
      (net.setPacket b (p.pushed ipv4HeaderMinSize)).ipv4Id protocolUdp
      ((net.setPacket b (p.pushed ipv4HeaderMinSize)).interfaces i).ipAddr destAddr =
      packetHeader cfg (body.length + ipv4HeaderMinSize) net.ipv4Id (net.interfaces i).ipAddr destAddr 0 := by
    rw [packetPool_setPacket, totalLen]
    exact unsummed
  rw [ipv4Build, bind_ok _ (packetPush_run room), bind_ok _ (read_run _), bind_ok _ (counted _), writeData]
  simp only [id_eq, header]
  rw [bind_ok _ (updatePacket_run _)]
  by_cases hardware : (net.interfaces i).checksumCaps.ipTx = true
  · rw [if_pos hardware]
    change (if (net.interfaces i).checksumCaps.ipTx = true then _ else _ : StackM Unit) _ = _
    rw [if_pos hardware, updatePacket_run]
  · rw [if_neg hardware]
    change (if (net.interfaces i).checksumCaps.ipTx = true then _ else _ : StackM Unit) _ = _
    rw [if_neg hardware, updatePacket_run]
    simp only [checksum]

theorem ipv4Build_run (cfg : Config) (net : Stack) (b : Nat) (destAddr : Addr)
    (carries : Carries 56 body p) (short : body.length ≤ 1480)
    (plain : (net.interfaces i).checksumCaps.ipTx = false) :
    ∃ q, ipv4Build cfg i b destAddr protocolUdp (net.setPacket b p) =
        some (.ok (), net.nextId.setPacket b q) ∧
      Carries 36 (ipv4Packet cfg net.ipv4Id (net.interfaces i).ipAddr destAddr body) q := by
  obtain ⟨q, header_in, run⟩ := ipv4Build_headed (i := i) cfg net b destAddr carries short
  rw [if_neg (by simp [plain])] at run
  rw [packetHeader_split] at header_in
  refine ⟨_, run, ?_⟩
  rw [ipv4Packet, packetHeader_split]
  exact header_in.splice (k := 10) _ (by simp) (by simp)

/- Handing it to the driver. -/

/-- What went out is the old frames, or the packet framed for the destination in front of them. -/
def Sends (i : Nat) (dest : Mac) (bytes : List UInt8) (before after : List Frame) : Prop :=
  after = before ∨
    ∃ src flags, after = ⟨i, packetFrame dest src bytes, flags⟩ :: before

def etherFrame (ethertype : Nat) (packet : List UInt8) : List UInt8 :=
  ethernetHeader dest src ethertype ++ (packet ++ padding packet)

def Hands (i : Nat) (dest : Mac) (ethertype : Nat) (bytes : List UInt8) (before after : List Frame) : Prop :=
  after = before ∨ ∃ src flags, after = ⟨i, etherFrame dest src ethertype bytes, flags⟩ :: before

theorem packetRelease_transmitted {P : List Frame → Prop} :
    Keeps (fun net => P net.transmitted) (packetRelease cfg b) :=
  .bind .read fun _ => .bind .reject fun _ => .bind .reject fun _ => .bind .reject fun _ => .modify fun _ h => h

theorem ethernetPad_run (net : Stack) (b : Nat) (near : offset ≤ 64) (carries : Carries offset bytes p) :
    ∃ q, ethernetPad b (net.setPacket b p) = some (.ok (), net.setPacket b q) ∧
      Carries offset (bytes ++ padding bytes) q := by
  rw [ethernetPad, bind_ok _ (read_run _), packetPool_setPacket]
  split
  · next short =>
    have length := carries.dataLength
    have room : ¬p.capacity < u32 (p.dataOffset + 46) := by
      rw [carries.capacity, carries.dataOffset, u32_of_lt (by omega), packetFrameSize]
      omega
    have room' : ¬(p.write p.dataLength (List.replicate (46 - p.dataLength) 0)).capacity <
        u32 ((p.write p.dataLength (List.replicate (46 - p.dataLength) 0)).dataOffset + 46) := room
    refine ⟨{ p.write p.dataLength (List.replicate (46 - p.dataLength) 0) with dataLength := 46 }, ?_,
      carries.capacity, carries.isInUse, carries.dataOffset, ?_⟩
    · rw [reject_bind_neg _ room, writeData, bind_ok _ (updatePacket_run _), packetSetLength, bind_ok _ (read_run _),
        packetPool_setPacket, reject_bind_neg _ room', updatePacket_run]
    · rw [padding, ← length]
      exact bytes_extend carries.bytes_eq _ (by rw [List.length_replicate]; omega)
  · next long =>
    have none : padding bytes = [] := by
      rw [padding, ← carries.dataLength, Nat.sub_eq_zero_of_le (by omega)]
      rfl
    exact ⟨p, rfl, by rw [none, List.append_nil]; exact carries⟩

theorem ethernetTx_hands (env : Env) (dest : Mac) (ethertype : Nat)
    (low : ethernetHeaderSize ≤ offset) (near : offset ≤ 64)
    (carries : Carries offset bytes p) (short : bytes.length ≤ 1500) :
    Triple (· = net.setPacket b p) (ethernetTx cfg env i b dest ethertype)
      (fun _ s => Hands i dest ethertype bytes net.transmitted s.transmitted)
      (fun _ s => Hands i dest ethertype bytes net.transmitted s.transmitted) := by
  obtain ⟨q, padded, padded_carries⟩ := ethernetPad_run net b near carries
  have length : (bytes ++ padding bytes).length ≤ 1546 := by
    rw [padding, List.length_append, List.length_replicate]
    omega
  have room : ethernetHeaderSize ≤ q.dataOffset := by
    rw [padded_carries.dataOffset]
    exact low
  have framed := padded_carries.push (ethernetHeader dest (net.interfaces i).macAddr ethertype) low
    (by rw [ethernetHeaderSize]; omega) (length_ethernetHeader _ _ _)
  have fits : ¬(q.pushed ethernetHeaderSize).dataLength < ethernetHeaderSize := by
    have header_first := framed.dataLength
    rw [List.length_append, length_ethernetHeader] at header_first
    change (q.pushed ethernetHeaderSize).dataLength = _ at header_first
    omega
  rw [ethernetTx]
  refine .bind (R := fun _ s => s = net.setPacket b ((q.pushed ethernetHeaderSize).write 0
    (ethernetHeader dest (net.interfaces i).macAddr ethertype)))
      (.onError (R := fun _ s => s.transmitted = net.transmitted)
      ?_ fun _ => ?_) fun _ => ?_
  · intro s start r s' run
    subst start
    rw [bind_ok _ (read_run _)] at run
    by_cases down : ((net.setPacket b p).interfaces i).isUp = false
    · rw [reject_bind_pos _ down] at run
      cases run
      rfl
    · have built : ethernetBuild i b dest ethertype (net.setPacket b (q.pushed ethernetHeaderSize)) =
          some (.ok (), net.setPacket b ((q.pushed ethernetHeaderSize).write 0
            (ethernetHeader dest (net.interfaces i).macAddr ethertype))) := by
        rw [ethernetBuild, bind_ok _ (read_run _), reject_bind_neg _ (by simpa using fits), writeData, updatePacket_run]
        rfl
      rw [reject_bind_neg _ down, bind_ok _ padded, bind_ok _ (packetPush_run room), built] at run
      cases run
      rfl
  · exact (packetRelease_transmitted (P := fun sent => sent = net.transmitted)).weaken
      (fun _ h => h) (fun _ _ h => .inl h)
      fun _ _ h => .inl h
  · refine .bind (R := fun _ s => Hands i dest ethertype bytes net.transmitted s.transmitted) ?_ fun result => ?_
    · refine .bind (R := fun n s => n = s ∧ s = net.setPacket b ((q.pushed ethernetHeaderSize).write 0
        (ethernetHeader dest (net.interfaces i).macAddr ethertype))) (.read fun s h => ⟨rfl, h⟩) fun n => ?_
      refine .bind (R := fun _ s => Hands i dest ethertype bytes net.transmitted s.transmitted)
        (.modify fun s h => ?_) fun _ =>
        .pure fun _ h => h
      obtain ⟨rfl, rfl⟩ := h
      refine .inr ⟨(net.interfaces i).macAddr, q.flags, ?_⟩
      rw [etherFrame, ← framed.bytes_eq, packetPool_setPacket]
      rfl
    · exact .bind (packetRelease_transmitted (P := Hands i dest ethertype bytes net.transmitted)).ignore fun _ =>
        .finish (fun _ _ h _ => h) fun _ _ h _ => h

theorem ethernetTx_sends (env : Env) (dest : Mac) (carries : Carries 36 bytes p) (short : bytes.length ≤ 1500) :
    Triple (· = net.setPacket b p) (ethernetTx cfg env i b dest ethertypeIpv4)
      (fun _ s => Sends i dest bytes net.transmitted s.transmitted)
      (fun _ s => Sends i dest bytes net.transmitted s.transmitted) :=
  ethernetTx_hands env dest ethertypeIpv4 (by decide) (by decide) carries short

/- A packet that nobody else touches. -/

variable {c : Nat} {E : Error → Stack → Prop}

def Fixed (b : Nat) (q : PacketBuffer) (net : Stack) : Prop := net.packetPool b = q

def Left (b : Nat) (q : PacketBuffer) (net : Stack) : Prop := net.inUse b = true → net.packetPool b = q

theorem updatePacket_fixed (other : c ≠ b) (f : PacketBuffer → PacketBuffer) :
    Triple (Fixed b q) (updatePacket c f) (fun _ => Fixed b q) E := by
  refine .modify fun s fixed => ?_
  rw [Fixed, Stack.setPacket]
  change Function.update s.packetPool c _ b = q
  rw [Function.update_of_ne (Ne.symm other)]
  exact fixed

theorem packetRelease_fixed (other : c ≠ b) : Keeps (Fixed b q) (packetRelease cfg c) :=
  .bind .read fun _ => .bind .reject fun _ => .bind .reject fun _ => .bind .reject fun _ => updatePacket_fixed other _

theorem ethernetTx_fixed {dest : Mac} {ethertype : Nat} (other : c ≠ b) :
    Keeps (Fixed b q) (ethernetTx cfg env i c dest ethertype) := by
  have setLength : ∀ length, Keeps (Fixed b q) (packetSetLength c length) := fun _ =>
    .bind .read fun _ => .bind .reject fun _ => updatePacket_fixed other _
  have pad : Keeps (Fixed b q) (ethernetPad c) := by
    refine .bind .read fun p => .ite (fun _ => ?_) fun _ => .pure
    exact .bind .reject fun _ => .bind (updatePacket_fixed other _) fun _ => setLength 46
  have push : Keeps (Fixed b q) (packetPush c ethernetHeaderSize) :=
    .bind .read fun _ => .bind .reject fun _ => updatePacket_fixed other _
  have build : Keeps (Fixed b q) (ethernetBuild i c dest ethertype) :=
    .bind .read fun _ => .bind .reject fun _ => updatePacket_fixed other _
  have sent : Keeps (Fixed b q) (transmit env i c) :=
    .bind .read fun _ => .bind (Keeps.modify fun _ fixed => fixed) fun _ => .pure
  refine .bind (.onError ?_ (packetRelease_fixed other)) fun _ => ?_
  · exact .bind .read fun _ => .bind .reject fun _ => .bind pad fun _ => .bind push fun _ => build
  · exact .bind sent fun _ => .bind (packetRelease_fixed other).ignore fun _ => .finish

theorem packetAlloc_fixed (used : q.isInUse = true) :
    Triple (Fixed b q) (packetAlloc cfg) (fun c s => c ≠ b ∧ Fixed b q s) (fun _ => Fixed b q) := by
  apply Triple.forState
  intro net fixed
  refine .bind (R := fun n s => n = net ∧ s = net) (.read fun s hs => ⟨hs, hs⟩) fun n => .assuming fun hn => ?_
  subst hn
  refine .bind (R := fun _ s => s = n) (.reject (fun s hs _ => hs ▸ fixed) fun s hs _ => hs) fun _ => ?_
  split
  · exact .fail fun s hs => hs ▸ fixed
  · next c found =>
    have other : c ≠ b := by
      rintro rfl
      have free := List.find?_some found
      change n.packetPool c = q at fixed
      rw [fixed, used] at free
      cases free
    refine .bind (R := fun _ => Fixed b q) ?_ fun _ => .pure fun _ h => ⟨other, h⟩
    exact (updatePacket_fixed other _).weaken (fun s hs => hs ▸ fixed) (fun _ _ h => h) fun _ _ h => h

theorem arpSend_fixed (used : q.isInUse = true) {operation : Nat} {targetMac : Mac} {targetIp : Addr} :
    Keeps (Fixed b q) (arpSend cfg env i operation targetMac targetIp) := by
  refine Triple.bind (packetAlloc_fixed used) fun c => .assuming fun other => ?_
  refine .bind (updatePacket_fixed other _) fun _ => Keeps.bind .read fun _ => ?_
  exact .bind (updatePacket_fixed other _) fun _ => ethernetTx_fixed other

theorem updateEntry_fixed {j : Nat} {f : ArpEntry → ArpEntry} :
    Triple (Fixed b q) (updateEntry i j f) (fun _ => Fixed b q) E :=
  .modify fun _ fixed => fixed

theorem releaseParked_fixed {j : Nat} :
    Triple (fun s => Fixed b q s ∧ (s.entry i j).pendingPacket ≠ some b) (releaseParked cfg i j)
      (fun _ => Fixed b q) E := by
  refine .bind (R := fun entry s => entry.pendingPacket ≠ some b ∧ Fixed b q s) (.read fun s hs => ⟨hs.2, hs.1⟩)
    fun entry => .assuming fun other => ?_
  cases pointer : entry.pendingPacket with
  | none => exact .pure fun _ hs => hs
  | some c =>
    have other : c ≠ b := fun eq => other (by rw [pointer, eq])
    exact .bind (packetRelease_fixed other).ignore fun _ => updateEntry_fixed

theorem arpCacheAllocateEntry_fixed (unparked : ∀ j < cfg.arpCacheSize, (net.entry i j).pendingPacket ≠ some b)
    (fixed : Fixed b q net) :
    Triple (· = net) (arpCacheAllocateEntry cfg i) (fun _ => Fixed b q) E := by
  have evicted : ∀ j < cfg.arpCacheSize,
      Triple (· = net) (arpEvict cfg i j >>= fun _ => pure (some j)) (fun _ => Fixed b q) E := by
    intro j lt
    refine .bind (R := fun _ => Fixed b q) ?_ fun _ => .pure fun _ h => h
    refine .bind ?_ fun _ => updateEntry_fixed
    exact releaseParked_fixed.weaken (fun s hs => hs ▸ ⟨fixed, unparked j lt⟩) (fun _ _ h => h) fun _ _ h => h
  refine .bind (R := fun n s => n = net ∧ s = net) (.read fun s hs => ⟨hs, hs⟩) fun n => .assuming fun hn => ?_
  subst hn
  split
  · refine .bind (R := fun _ => Fixed b q) ?_ fun _ => .pure fun _ h => h
    exact updateEntry_fixed.weaken (fun _ hs => hs ▸ fixed) (fun _ _ h => h) fun _ _ h => h
  · split
    · next j oldest => exact evicted j (arpOldest_lt oldest)
    · split
      · next j oldest => exact evicted j (arpOldest_lt oldest)
      · exact .pure fun _ hs => hs ▸ fixed

theorem packetRelease_left : Triple (Fixed b q) (packetRelease cfg b) (fun _ => Left b q) (fun _ => Left b q) := by
  have kept : ∀ s, Fixed b q s → Left b q s := fun _ fixed _ => fixed
  refine .bind (R := fun _ => Fixed b q) (.read fun _ h => h) fun n => ?_
  refine .bind (R := fun _ => Fixed b q) (.reject (fun s h _ => kept s h) fun _ h _ => h) fun _ => ?_
  refine .bind (R := fun _ => Fixed b q) (.reject (fun s h _ => kept s h) fun _ h _ => h) fun _ => ?_
  refine .bind (R := fun _ => Fixed b q) (.reject (fun s h _ => kept s h) fun _ h _ => h) fun _ => ?_
  refine .modify fun s _ used => ?_
  simp [Stack.inUse] at used

theorem arpResolve_left (used : q.isInUse = true) (owned : Owned cfg [b] net) (fixed : Fixed b q net) :
    Triple (· = net) (arpResolve cfg env i ipAddr b) (fun _ => Left b q) (fun _ => Left b q) := by
  have gone : ∀ {dest : Mac}, Triple (· = net) (ethernetTx cfg env i b dest ethertypeIpv4) (fun _ => Left b q)
      (fun _ => Left b q) := by
    intro dest
    have done : Triple (Owned cfg [b]) (ethernetTx cfg env i b dest ethertypeIpv4) (fun _ => Done cfg b [])
        (fun _ => Done cfg b []) := ethernetTx_done env
    refine done.weaken (fun s hs => hs ▸ owned) (fun _ s done used => ?_) fun _ s done used => ?_
    all_goals
      rw [done.2] at used
      cases used
  have unparked : ∀ j < cfg.arpCacheSize, (net.entry i j).pendingPacket ≠ some b := fun j lt pointer =>
    owned.parked_not_held i j b ⟨lt, pointer⟩ List.mem_cons_self
  have kept : ∀ s, Fixed b q s → Left b q s := fun _ fixed _ => fixed
  refine .ite (fun _ => gone) fun _ => .ite (fun _ => gone) fun _ => ?_
  refine .bind (R := fun n s => n = net ∧ s = net) (.read fun s hs => ⟨hs, hs⟩) fun n => .assuming fun hn => ?_
  subst hn
  split
  · exact gone
  · split
    · next j found =>
      have pointer := unparked j (arpFind_spec found).1
      refine .bind (R := fun _ => Fixed b q) ?_ fun _ => .modify fun s fixed => kept _ fixed
      exact releaseParked_fixed.weaken (fun s hs => hs ▸ ⟨fixed, pointer⟩) (fun _ _ h => h) fun _ _ h => h
    · refine .bind (arpCacheAllocateEntry_fixed unparked fixed) fun found => ?_
      cases found with
      | none => exact .bind (packetRelease_left.ignore (fun _ _ h => h) fun _ _ h => h) fun _ => .fail fun _ h => h
      | some j =>
        refine .bind (R := fun _ => Fixed b q) (.read fun _ h => h) fun currentTime => ?_
        refine .bind (R := fun _ => Fixed b q) updateEntry_fixed fun _ => ?_
        exact (arpSend_fixed used).ignore.weaken (fun _ h => h) (fun _ s h => kept s h) fun _ s h => h

/- From the call to the frame. -/

/-- The address that a next hop is reached at without waiting for a reply. -/
def destinationMac (cfg : Config) (net : Stack) (i : Nat) (ipAddr : Addr) : Option Mac :=
  if ipAddr = broadcastAddr then some broadcastMac
  else if isMulticastAddr ipAddr then some (multicastMac ipAddr)
  else arpCacheQuery cfg net i ipAddr

theorem arpResolve_known {mac : Mac} (known : destinationMac cfg net i ipAddr = some mac) :
    arpResolve cfg env i ipAddr b net = ethernetTx cfg env i b mac ethertypeIpv4 net := by
  rw [destinationMac] at known
  rw [arpResolve]
  split at known
  · next broadcast =>
    cases known
    rw [if_pos broadcast]
  · next unicast =>
    rw [if_neg unicast]
    split at known
    · next multicast =>
      cases known
      rw [if_pos multicast]
    · next single =>
      rw [if_neg single, bind_ok _ (read_run _), id_eq, known]

def nextFree (cfg : Config) (net : Stack) : Option Nat :=
  (List.range cfg.packetPoolSize).find? fun b => !net.inUse b

theorem packetAlloc_run (initialized : net.isInitialized = true) (free : nextFree cfg net = some b) :
    packetAlloc cfg net = some (.ok b, net.setPacket b
      { net.packetPool b with isInUse := true, dataOffset := 0, dataLength := 0, flags := 0 }) := by
  have free : (List.range cfg.packetPoolSize).find? (fun b => !(net.packetPool b).isInUse) = some b := free
  rw [packetAlloc, bind_ok _ (read_run _), reject_bind_neg _ (by simp [initialized]), id_eq, free]
  rfl

theorem packetAlloc_none (initialized : net.isInitialized = true) (full : nextFree cfg net = none) :
    packetAlloc cfg net = some (.error .noPacketBuffer, net) := by
  have full : (List.range cfg.packetPoolSize).find? (fun b => !(net.packetPool b).isInUse) = none := full
  rw [packetAlloc, bind_ok _ (read_run _), reject_bind_neg _ (by simp [initialized]), id_eq, full]
  rfl

theorem nextFree_spec (free : nextFree cfg net = some b) : b < cfg.packetPoolSize ∧ net.inUse b = false := by
  have test := List.find?_some free
  exact ⟨List.mem_range.mp (List.mem_of_find?_eq_some free), by simpa using test⟩

theorem udpSendTo_built (env : Env) (destPort : Nat) {q₁ : PacketBuffer} (owned : Owned cfg [] net)
    (open_ : (net.sockets s).hasNet = true) (target : udpTarget net destAddr = some i)
    (free : nextFree cfg net = some b)
    (built : udpBuild i b (net.sockets s).localPort destAddr destPort payload (net.setPacket b
      { net.packetPool b with isInUse := true, dataOffset := 0, dataLength := 0, flags := 0 }) = some (.ok (), net.setPacket b q₁))
    (headed : ipv4Build cfg i b destAddr protocolUdp (net.setPacket b q₁) = some (.ok (), net.nextId.setPacket b q))
    (used : q.isInUse = true) :
    udpSendTo cfg env s destAddr destPort payload net =
        arpResolve cfg env i (ipv4NextHop (net.interfaces i) destAddr) b (net.nextId.setPacket b q) ∧
      Owned cfg [b] (net.nextId.setPacket b q) := by
  obtain ⟨lt, unused⟩ := nextFree_spec free
  constructor
  · rw [udpSendTo, bind_ok _ (read_run _), reject_bind_neg _ (by simp [open_]), id_eq, target]
    change (packetAlloc cfg >>= _) net = _
    rw [bind_ok _ (packetAlloc_run owned.initialized free), bind_ok _ (onError_ok _ built), ipv4Tx, bind_ok _ headed,
      bind_ok _ (read_run _)]
    rfl
  · have counted : Owned cfg [] net.nextId :=
      owned.congr ⟨rfl, rfl, fun _ => rfl, fun _ _ => rfl, fun _ _ _ _ h => h⟩
    exact counted.take lt unused used

theorem udpSendTo_run (env : Env) (destPort : Nat) (owned : Owned cfg [] net)
    (capacity : (net.packetPool b).capacity = packetFrameSize)
    (open_ : (net.sockets s).hasNet = true) (target : udpTarget net destAddr = some i)
    (udpTx : (net.interfaces i).checksumCaps.udpTx = false) (ipTx : (net.interfaces i).checksumCaps.ipTx = false)
    (short : payload.length ≤ 1472) (free : nextFree cfg net = some b) :
    ∃ q, udpSendTo cfg env s destAddr destPort payload net =
        arpResolve cfg env i (ipv4NextHop (net.interfaces i) destAddr) b (net.nextId.setPacket b q) ∧
      Owned cfg [b] (net.nextId.setPacket b q) ∧
      Carries 36 (datagramPacket cfg net.ipv4Id (net.interfaces i).ipAddr destAddr (net.sockets s).localPort destPort
        payload) q := by
  obtain ⟨q₁, built, carries₁⟩ := udpBuild_run net b (net.sockets s).localPort destAddr destPort
    (p := { net.packetPool b with isInUse := true, dataOffset := 0, dataLength := 0, flags := 0 }) capacity rfl short udpTx
  obtain ⟨q, headed, carries⟩ := ipv4Build_run cfg net b destAddr carries₁
    (by rw [length_segment, udpHeaderSize]; omega) ipTx
  obtain ⟨run, owned'⟩ := udpSendTo_built env destPort owned open_ target free built headed carries.isInUse
  exact ⟨q, run, owned', carries⟩

end XSDK.Net
