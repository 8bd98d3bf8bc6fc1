import XSDK.Net.RoundTrip

/-! Sending stays inside the packet buffer up to the payload that fills a frame, and no further. -/
namespace XSDK.Net

open Library Prog PacketBuffer

variable {cfg : Config} (env : Env) {net net' : Stack} {i b : Nat} {payload : List UInt8}

/- What lies past the end of the buffers. -/

section Beyond

variable {past : Nat → Nat → UInt8} {offset : Nat} {E : Error → Stack → Prop}

def Beyond (past : Nat → Nat → UInt8) (net : Stack) : Prop :=
  Carved net ∧ ∀ c k, packetFrameSize ≤ k → (net.packetPool c).buffer k = past c k

def Placed (past : Nat → Nat → UInt8) (b offset : Nat) (net : Stack) : Prop :=
  Beyond past net ∧ (net.packetPool b).dataOffset = offset

/-- A packet that changes below its end only. -/
structure Below (p q : PacketBuffer) : Prop where
  capacity : q.capacity = p.capacity
  past_eq : ∀ k, packetFrameSize ≤ k → q.buffer k = p.buffer k

theorem below_write (p : PacketBuffer) {k : Nat} {bytes : List UInt8}
    (inside : p.dataOffset + k + bytes.length ≤ packetFrameSize) : Below p (p.write k bytes) := by
  refine ⟨rfl, ?_⟩
  intro j beyond
  exact if_neg (by omega)

theorem Beyond.setPacket (beyond : Beyond past net) {q : PacketBuffer} (below : Below (net.packetPool b) q) :
    Beyond past (net.setPacket b q) := by
  have at_b : ∀ c, (net.setPacket b q).packetPool c = if c = b then q else net.packetPool c := by
    intro c
    exact Function.update_apply ..
  constructor
  · intro c
    rw [at_b]
    split
    · exact below.capacity.trans (beyond.1 b)
    · exact beyond.1 c
  · intro c k high
    rw [at_b]
    split
    · next same => rw [below.past_eq k high, beyond.2 b k high, same]
    · exact beyond.2 c k high

variable {f : PacketBuffer → PacketBuffer} {j : Nat}

theorem updatePacket_beyond (below : ∀ p, Below p (f p)) :
    Keeps (Beyond past) (updatePacket b f) := .modify fun _ beyond => beyond.setPacket (below _)

theorem updatePacket_placed {offset' : Nat}
    (below : ∀ p, p.dataOffset = offset → Below p (f p)) (moved : ∀ p, p.dataOffset = offset → (f p).dataOffset = offset') :
    Triple (Placed past b offset) (updatePacket b f) (fun _ => Placed past b offset') E := by
  refine .modify fun net placed => ⟨placed.1.setPacket (below _ placed.2), ?_⟩
  rw [packetPool_setPacket]
  exact moved _ placed.2

theorem writeData_placed {k : Nat} {bytes : List UInt8} (inside : offset + k + bytes.length ≤ packetFrameSize) :
    Triple (Placed past b offset) (writeData b k bytes) (fun _ => Placed past b offset) E :=
  updatePacket_placed (fun p same => below_write p (same ▸ inside)) fun _ same => same

theorem packetRelease_beyond : Keeps (Beyond past) (packetRelease cfg b) :=
  .bind .read fun _ => .bind .reject fun _ => .bind .reject fun _ => .bind .reject fun _ =>
    updatePacket_beyond fun _ => ⟨rfl, fun _ _ => rfl⟩

theorem packetAlloc_beyond : Keeps (Beyond past) (packetAlloc cfg) := by
  refine .bind .read fun net => .bind .reject fun _ => ?_
  split
  · exact .fail
  · exact .bind (updatePacket_beyond fun _ => ⟨rfl, fun _ _ => rfl⟩) fun _ => .pure

theorem packetPush_placed {size : Nat} :
    Triple (Placed past b offset) (packetPush b size) (fun _ => Placed past b (offset - size))
      (fun _ => Beyond past) := by
  refine .readThen fun _ => .rejectThen (fun _ h => h.1) fun _ => ?_
  exact updatePacket_placed (fun _ _ => ⟨rfl, fun _ _ => rfl⟩) fun _ same => congrArg (· - size) same

theorem packetSetLength_placed {length : Nat} :
    Triple (Placed past b offset) (packetSetLength b length) (fun _ => Placed past b offset)
      (fun _ => Beyond past) := by
  refine .readThen fun _ => .rejectThen (fun _ h => h.1) fun _ => ?_
  exact updatePacket_placed (fun _ _ => ⟨rfl, fun _ _ => rfl⟩) fun _ same => same

theorem updateEntry_beyond {f : ArpEntry → ArpEntry} : Keeps (Beyond past) (updateEntry i j f) :=
  .modify fun _ beyond => beyond

theorem releaseParked_beyond : Keeps (Beyond past) (releaseParked cfg i j) := by
  refine .bind .read fun entry => ?_
  split
  · exact .pure
  · exact .bind packetRelease_beyond.ignore fun _ => updateEntry_beyond

theorem arpEvict_beyond : Keeps (Beyond past) (arpEvict cfg i j) :=
  .bind releaseParked_beyond fun _ => updateEntry_beyond

theorem arpCacheAllocateEntry_beyond : Keeps (Beyond past) (arpCacheAllocateEntry cfg i) := by
  refine .bind .read fun net => ?_
  split
  · exact .bind updateEntry_beyond fun _ => .pure
  · split
    · exact .bind arpEvict_beyond fun _ => .pure
    · split
      · exact .bind arpEvict_beyond fun _ => .pure
      · exact .pure

/-- Padding ends within 46 bytes of the data pointer and the header lies before it. -/
theorem ethernetTx_beyond {dest : Mac} {ethertype : Nat} (near : offset ≤ 64) :
    Triple (Placed past b offset) (ethernetTx cfg env i b dest ethertype) (fun _ => Beyond past)
      (fun _ => Beyond past) := by
  have pad : Triple (Placed past b offset) (ethernetPad b) (fun _ => Placed past b offset) (fun _ => Beyond past) := by
    refine .readThen fun p => .ite (fun short => ?_) fun _ => .pure fun _ h => h
    refine .rejectThen (fun _ h => h.1) fun _ => ?_
    refine .bind (R := fun _ => Placed past b offset) ?_ fun _ => packetSetLength_placed
    apply writeData_placed
    rw [List.length_replicate, packetFrameSize]
    omega
  have build : Triple (Placed past b (offset - ethernetHeaderSize)) (ethernetBuild i b dest ethertype)
      (fun _ => Beyond past) (fun _ => Beyond past) := by
    refine .readThen fun net => .rejectThen (fun _ h => h.1) fun _ => ?_
    refine (writeData_placed ?_).weaken (fun _ h => h) (fun _ _ h => h.1) fun _ _ h => h
    rw [length_ethernetHeader, ethernetHeaderSize, packetFrameSize]
    omega
  have sent : Keeps (Beyond past) (transmit env i b) :=
    .bind .read fun _ => .bind (Keeps.modify fun _ beyond => beyond) fun _ => .pure
  refine .bind (R := fun _ => Beyond past) (.onError (R := fun _ => Beyond past) ?_ fun _ => packetRelease_beyond) fun _ => ?_
  · refine .readThen fun _ => .rejectThen (fun _ h => h.1) fun _ => ?_
    exact .bind pad fun _ => .bind packetPush_placed fun _ => build
  · exact Keeps.bind sent fun _ => .bind packetRelease_beyond.ignore fun _ => .finish

theorem arpSend_beyond {operation : Nat} {targetMac : Mac} {targetIp : Addr} :
    Keeps (Beyond past) (arpSend cfg env i operation targetMac targetIp) := by
  refine Triple.bind packetAlloc_beyond fun c => ?_
  refine Triple.bind (R := fun _ => Placed past c 32) (.modify fun net beyond => ⟨?_, ?_⟩) fun _ =>
    .readThen fun interface => ?_
  · exact beyond.setPacket ⟨rfl, fun _ _ => rfl⟩
  · rw [packetPool_setPacket]
  · refine .bind (R := fun _ => Placed past c 32) ?_ fun _ => ethernetTx_beyond env (by decide)
    apply writeData_placed
    simp [arpBody, be16Bytes, packetFrameSize]

theorem arpResolve_beyond {ipAddr : Addr} (near : offset ≤ 64) :
    Triple (Placed past b offset) (arpResolve cfg env i ipAddr b) (fun _ => Beyond past) (fun _ => Beyond past) := by
  have kept : ∀ {α : Type} {m : StackM α}, Keeps (Beyond past) m →
      Triple (Placed past b offset) m (fun _ => Beyond past) (fun _ => Beyond past) :=
    fun keeps => keeps.weaken (fun _ h => h.1) (fun _ _ h => h) fun _ _ h => h
  refine .ite (fun _ => ethernetTx_beyond env near) fun _ => .ite (fun _ => ethernetTx_beyond env near) fun _ =>
    .readThen fun net => ?_
  split
  · exact ethernetTx_beyond env near
  · apply kept
    split
    · exact .bind releaseParked_beyond fun _ => updateEntry_beyond
    · refine .bind arpCacheAllocateEntry_beyond fun found => ?_
      split
      · exact .bind packetRelease_beyond.ignore fun _ => .fail
      · exact .bind .read fun _ => .bind updateEntry_beyond fun _ => (arpSend_beyond env).ignore

theorem ipv4Build_placed {dest : Addr} {protocol : Nat} :
    Triple (Placed past b 56) (ipv4Build cfg i b dest protocol) (fun _ => Placed past b 36) (fun _ => Beyond past) := by
  refine .bind packetPush_placed fun _ => .readThen fun net => ?_
  refine .bind (R := fun _ => Placed past b 36) (.modify fun _ h => h) fun _ => ?_
  refine .bind (R := fun _ => Placed past b 36) ?_ fun _ => .ite (fun _ => ?_) fun _ => ?_
  · apply writeData_placed
    simp [ipv4Header, be16Bytes, packetFrameSize]
  · exact updatePacket_placed (fun _ _ => ⟨rfl, fun _ _ => rfl⟩) fun _ same => same
  · refine updatePacket_placed (fun p same => below_write p ?_) fun _ same => same
    rw [same, length_be16Bytes]
    decide

def laid (past : Nat → Nat → UInt8) (b : Nat) (payload : List UInt8) (c k : Nat) : UInt8 :=
  if c = b ∧ 64 ≤ k ∧ k < 64 + payload.length then payload.getD (k - 64) 0 else past c k

theorem udpBuild_placed {localPort remotePort : Nat} {remoteAddr : Addr} :
    Triple (Beyond past) (udpBuild i b localPort remoteAddr remotePort payload)
      (fun _ => Placed (laid past b payload) b 56) (fun _ => Beyond (laid past b payload)) := by
  refine .bind (R := fun _ => Placed past b 64) (.modify fun net beyond => ⟨?_, ?_⟩) fun _ => ?_
  · exact beyond.setPacket ⟨rfl, fun _ _ => rfl⟩
  · rw [packetPool_setPacket]
  refine .bind (R := fun _ => Placed (laid past b payload) b 64) (.modify fun net placed => ?_) fun _ => ?_
  · obtain ⟨⟨carved, past_eq⟩, offset_eq⟩ := placed
    have at_b : ∀ c, (net.setPacket b ((net.packetPool b).write 0 payload)).packetPool c =
        if c = b then (net.packetPool b).write 0 payload else net.packetPool c := fun c => Function.update_apply ..
    refine ⟨⟨?_, ?_⟩, ?_⟩
    · intro c
      rw [at_b]
      split
      · exact carved b
      · exact carved c
    · intro c k high
      rw [at_b, laid, ← past_eq c k high]
      by_cases same : c = b
      · subst same
        simp only [PacketBuffer.write, offset_eq, if_true, true_and, Nat.add_zero]
      · rw [if_neg same, if_neg fun h => same h.1]
    · rw [at_b, if_pos rfl]
      exact offset_eq
  refine .bind packetPush_placed fun _ => ?_
  refine .bind (R := fun _ => Placed (laid past b payload) b 56) (writeData_placed ?_) fun _ =>
    .readThen fun _ => .ite (fun _ => ?_) fun _ => ?_
  · simp [udpHeader, be16Bytes, udpHeaderSize, packetFrameSize]
  · exact updatePacket_placed (fun _ _ => ⟨rfl, fun _ _ => rfl⟩) fun _ same => same
  · refine updatePacket_placed (fun p same => below_write p ?_) fun _ same => same
    rw [same, length_be16Bytes]
    decide

theorem udpSendTo_beyond (past : Nat → Nat → UInt8) {s : SocketId} {remoteAddr : Addr} {remotePort : Nat}
    {result : Except Error Unit} (initialized : net.isInitialized = true) (open_ : (net.sockets s).hasNet = true)
    (target : udpTarget net remoteAddr = some i) (free : nextFree cfg net = some b) (beyond : Beyond past net)
    (run : udpSendTo cfg env s remoteAddr remotePort payload net = some (result, net')) :
    Beyond (laid past b payload) net' := by
  rw [udpSendTo, bind_ok _ (read_run _), reject_bind_neg _ (by simp [open_]), id_eq, target] at run
  change (packetAlloc cfg >>= _) net = _ at run
  rw [bind_ok _ (packetAlloc_run initialized free)] at run
  have allocated : Beyond past (net.setPacket b
      { net.packetPool b with isInUse := true, dataOffset := 0, dataLength := 0, flags := 0 }) :=
    beyond.setPacket ⟨rfl, fun _ _ => rfl⟩
  have sends : Triple (Beyond past)
      (onError (udpBuild i b (net.sockets s).localPort remoteAddr remotePort payload) (packetRelease cfg b) >>= fun _ =>
        ipv4Tx cfg env i b remoteAddr protocolUdp)
      (fun _ => Beyond (laid past b payload)) (fun _ => Beyond (laid past b payload)) := by
    refine .bind (.onError udpBuild_placed fun _ => packetRelease_beyond) fun _ => ?_
    exact .bind ipv4Build_placed fun _ => .readThen fun _ => arpResolve_beyond env (by decide)
  exact sends.always allocated run

end Beyond

/- What goes out. -/

section Out

variable {bytes packet : List UInt8} {before : List Frame} {p q : PacketBuffer} {offset : Nat}
    {E : Error → Stack → Prop}

def OnWire (bytes : List UInt8) (frame : Frame) : Prop :=
  (∃ dest src, frame.bytes = etherFrame dest src ethertypeIpv4 bytes) ∨
    ∃ dest src message, message.length = arpPacketSize ∧ frame.bytes = etherFrame dest src ethertypeArp message

/-- What left since then is on the wire for this packet. -/
def Out (bytes : List UInt8) (before : List Frame) (net : Stack) : Prop :=
  Carved net ∧ ∃ new, net.transmitted = new ++ before ∧ ∀ frame ∈ new, OnWire bytes frame

theorem inner_out : Inner (Out bytes before) :=
  ⟨fun net b p same out => ⟨unaffected_carved.packet net b p same out.1, out.2⟩, fun _ _ _ out => out, fun _ _ out => out⟩

/-- A packet from an offset on, and what left since then. -/
def Ready (b offset : Nat) (packet bytes : List UInt8) (before : List Frame) (net : Stack) : Prop :=
  Carries offset packet (net.packetPool b) ∧ Out bytes before net

theorem length_etherFrame (dest src : Mac) (ethertype : Nat) (packet : List UInt8) :
    (etherFrame dest src ethertype packet).length = max 60 (packet.length + 14) := by
  simp only [etherFrame, List.length_append, length_ethernetHeader, padding, List.length_replicate, ethernetHeaderSize]
  omega

theorem ethernetTx_out {dest : Mac} {ethertype : Nat} (low : ethernetHeaderSize ≤ offset) (near : offset ≤ 64)
    (short : packet.length ≤ 1500) (wire : ∀ src flags, OnWire bytes ⟨i, etherFrame dest src ethertype packet, flags⟩) :
    Triple (Ready b offset packet bytes before) (ethernetTx cfg env i b dest ethertype) (fun _ => Out bytes before)
      (fun _ => Out bytes before) := by
  apply Triple.forState
  rintro net ⟨carries, carved, new, sent, all⟩
  have same : net.setPacket b (net.packetPool b) = net := by
    rw [Stack.setPacket, Function.update_eq_self]
  have hands : Triple (· = net.setPacket b (net.packetPool b)) (ethernetTx cfg env i b dest ethertype)
      (fun _ s => Hands i dest ethertype packet net.transmitted s.transmitted)
      (fun _ s => Hands i dest ethertype packet net.transmitted s.transmitted) :=
    ethernetTx_hands env dest ethertype low near carries short
  rw [same] at hands
  have sizes : Keeps Carved (ethernetTx cfg env i b dest ethertype) :=
    (ethernetTx_steady env unaffected_carved.apart).keeps
  have out : ∀ s, Carved s ∧ Hands i dest ethertype packet net.transmitted s.transmitted → Out bytes before s := by
    rintro s ⟨carved', none_new | ⟨src, flags, one⟩⟩
    · exact ⟨carved', new, none_new.trans sent, all⟩
    · refine ⟨carved', ⟨i, etherFrame dest src ethertype packet, flags⟩ :: new, ?_, ?_⟩
      · rw [one, sent, List.cons_append]
      · intro frame mem
        rcases List.mem_cons.mp mem with rfl | old
        · exact wire src flags
        · exact all frame old
  exact (sizes.both hands).weaken (fun s hs => ⟨hs ▸ carved, hs⟩) (fun _ s h => out s h) fun _ s h => out s h

theorem carries_message (capacity : p.capacity = packetFrameSize) (used : p.isInUse = true)
    (offset : Nat) (message : List UInt8) :
    Carries offset message ({ p with dataOffset := offset, dataLength := message.length }.write 0 message) := by
  refine ⟨capacity, used, rfl, ?_⟩
  have old : { p with dataOffset := offset, dataLength := message.length }.bytes =
      [] ++ { p with dataOffset := offset, dataLength := message.length }.bytes ++ [] := by simp
  have same : message.length = { p with dataOffset := offset, dataLength := message.length }.bytes.length := by
    rw [length_bytes]
  have spliced := bytes_splice (k := 0) old rfl same
  rw [spliced, List.nil_append, List.append_nil]

theorem packetAlloc_out :
    Triple (Out bytes before) (packetAlloc cfg) (fun c s => (s.packetPool c).isInUse = true ∧ Out bytes before s)
      (fun _ => Out bytes before) := by
  refine .readThen fun net => .rejectThen (fun _ h => h) fun _ => ?_
  split
  · exact .fail fun _ h => h
  · next c _ =>
    refine .bind (R := fun _ s => (s.packetPool c).isInUse = true ∧ Out bytes before s) ?_ fun _ => .pure fun _ h => h
    refine .modify fun s out => ⟨?_, inner_out.packet s c _ rfl out⟩
    rw [packetPool_setPacket]

theorem arpSend_out {operation : Nat} {targetMac : Mac} {targetIp : Addr} :
    Keeps (Out bytes before) (arpSend cfg env i operation targetMac targetIp) := by
  refine Triple.bind packetAlloc_out fun c => ?_
  refine .bind (R := fun _ s => (∃ p : PacketBuffer, p.capacity = packetFrameSize ∧ p.isInUse = true ∧
    s.packetPool c = { p with dataOffset := 32, dataLength := arpPacketSize }) ∧ Out bytes before s) ?_ fun _ => ?_
  · refine .modify fun s h => ⟨⟨s.packetPool c, h.2.1 c, h.1, packetPool_setPacket _ _ _⟩, ?_⟩
    exact inner_out.packet s c _ rfl h.2
  refine .readThen fun interface => ?_
  have length : ∀ tha, (arpBody operation interface.macAddr interface.ipAddr tha targetIp).length = arpPacketSize := by
    intro tha
    simp [arpBody, be16Bytes, arpPacketSize]
  refine .bind (R := fun _ => Ready c 32 (arpBody operation interface.macAddr interface.ipAddr
    (if operation = arpOpRequest then zeroMac else targetMac) targetIp) bytes before)
      (.modify fun s h => ⟨?_, ?_⟩) fun _ => ?_
  · obtain ⟨⟨p, capacity, used, here⟩, -⟩ := h
    rw [packetPool_setPacket, here, ← length]
    exact carries_message capacity used 32 _
  · exact inner_out.packet s c _ rfl h.2
  · apply ethernetTx_out env (by decide) (by decide)
    · rw [length]
      decide
    · exact fun src flags => .inr ⟨_, src, _, length _, rfl⟩

theorem arpResolve_out {ipAddr : Addr} (short : bytes.length ≤ 1500) :
    Triple (Ready b 36 bytes bytes before) (arpResolve cfg env i ipAddr b) (fun _ => Out bytes before)
      (fun _ => Out bytes before) := by
  have direct : ∀ dest, Triple (Ready b 36 bytes bytes before) (ethernetTx cfg env i b dest ethertypeIpv4)
      (fun _ => Out bytes before) (fun _ => Out bytes before) :=
    fun dest => ethernetTx_out env (by decide) (by decide) short fun src flags => .inl ⟨dest, src, rfl⟩
  have kept : ∀ {α : Type} {m : StackM α}, Keeps (Out bytes before) m →
      Triple (Ready b 36 bytes bytes before) m (fun _ => Out bytes before) (fun _ => Out bytes before) :=
    fun keeps => keeps.weaken (fun _ h => h.2) (fun _ _ h => h) fun _ _ h => h
  refine .ite (fun _ => direct _) fun _ => .ite (fun _ => direct _) fun _ => .readThen fun net => ?_
  split
  · exact direct _
  · split
    · exact kept (arpPark_steady inner_out).keeps
    · refine kept (.bind (arpCacheAllocateEntry_steady inner_out).keeps fun found => ?_)
      split
      · exact .bind (packetRelease_steady inner_out).keeps.ignore fun _ => .fail
      · exact .bind .read fun _ => .bind (updateEntry_steady inner_out).keeps fun _ => (arpSend_out env).ignore

end Out

/- The lengths in the headers. -/

section Lengths

variable {srcAddr destAddr : Addr} {srcPort destPort ident ipSum udpSum : Nat}

/-- The lengths that a packet's headers announce: of the packet and of its datagram. -/
def TrueLengths (length : Nat) (data : Nat → UInt8) : Prop :=
  be16 data 2 = length + udpHeaderSize + ipv4HeaderMinSize ∧ be16 data 24 = length + udpHeaderSize

def sentPacket (cfg : Config) (ident : Nat) (srcAddr destAddr : Addr) (srcPort destPort : Nat) (payload : List UInt8)
    (ipSum udpSum : Nat) : List UInt8 :=
  packetHeader cfg (payload.length + udpHeaderSize + ipv4HeaderMinSize) ident srcAddr destAddr ipSum ++
    udpSegment srcPort destPort payload udpSum

theorem length_sentPacket :
    (sentPacket cfg ident srcAddr destAddr srcPort destPort payload ipSum udpSum).length = payload.length + 28 := by
  rw [sentPacket, List.length_append, length_packetHeader, length_udpSegment, ipv4HeaderMinSize, udpHeaderSize]
  omega

theorem be16_getD {l a b : List UInt8} {k x : Nat} (split : l = a ++ be16Bytes x ++ b) (at_end : a.length = k) :
    be16 (fun j => l.getD j 0) k = u16 x := by
  subst split at_end
  have first : (a ++ be16Bytes x ++ b).getD a.length 0 = UInt8.ofNat (x / 256) := by simp [be16Bytes]
  have second : (a ++ be16Bytes x ++ b).getD (a.length + 1) 0 = UInt8.ofNat x := by simp [be16Bytes]
  rw [be16, first, second, be16_be16Bytes]

theorem sentPacket_total (rest : List UInt8) :
    ∃ after, sentPacket cfg ident srcAddr destAddr srcPort destPort payload ipSum udpSum ++ rest =
      [0x45, 0x00] ++ be16Bytes (payload.length + udpHeaderSize + ipv4HeaderMinSize) ++ after := by
  simp only [sentPacket, packetHeader, List.append_assoc]
  exact ⟨_, rfl⟩

theorem sentPacket_datagram (rest : List UInt8) :
    ∃ before after, before.length = 24 ∧ sentPacket cfg ident srcAddr destAddr srcPort destPort payload ipSum udpSum ++ rest =
      before ++ be16Bytes (payload.length + udpHeaderSize) ++ after := by
  refine ⟨packetHeader cfg (payload.length + udpHeaderSize + ipv4HeaderMinSize) ident srcAddr destAddr ipSum ++
    be16Bytes srcPort ++ be16Bytes destPort, be16Bytes udpSum ++ payload ++ rest, ?_, ?_⟩
  · rw [List.length_append, List.length_append, length_packetHeader]
    rfl
  · simp only [sentPacket, udpSegment, List.append_assoc]

theorem sentPacket_lengths {before : List UInt8} {n : Nat} (at_end : before.length = n) (rest : List UInt8)
    (short : payload.length ≤ 1472) :
    TrueLengths payload.length fun k =>
      (before ++ (sentPacket cfg ident srcAddr destAddr srcPort destPort payload ipSum udpSum ++ rest)).getD (n + k) 0 := by
  have behind : ∀ k, (before ++ (sentPacket cfg ident srcAddr destAddr srcPort destPort payload ipSum udpSum ++ rest)).getD
      (n + k) 0 = (sentPacket cfg ident srcAddr destAddr srcPort destPort payload ipSum udpSum ++ rest).getD k 0 := by
    intro k
    rw [← at_end, List.getD_append_right _ _ _ _ (Nat.le_add_right _ _), Nat.add_sub_cancel_left]
  simp only [TrueLengths, behind]
  obtain ⟨_, total⟩ := @sentPacket_total cfg payload srcAddr destAddr srcPort destPort ident ipSum udpSum rest
  obtain ⟨_, _, front, datagram⟩ := @sentPacket_datagram cfg payload srcAddr destAddr srcPort destPort ident ipSum udpSum rest
  constructor
  · rw [be16_getD (k := 2) total rfl, u16_of_lt (by rw [udpHeaderSize, ipv4HeaderMinSize]; omega)]
  · rw [be16_getD datagram front, u16_of_lt (by rw [udpHeaderSize]; omega)]

theorem Carries.lengths {q : PacketBuffer} {offset : Nat} (short : payload.length ≤ 1472)
    (carries : Carries offset (sentPacket cfg ident srcAddr destAddr srcPort destPort payload ipSum udpSum) q) :
    TrueLengths payload.length q.data := by
  have bytes := carries.bytes_eq
  rw [← List.append_nil (sentPacket _ _ _ _ _ _ _ _ _)] at bytes
  obtain ⟨_, total⟩ := @sentPacket_total cfg payload srcAddr destAddr srcPort destPort ident ipSum udpSum []
  obtain ⟨_, _, front, datagram⟩ := @sentPacket_datagram cfg payload srcAddr destAddr srcPort destPort ident ipSum udpSum []
  constructor
  · rw [be16_of_split (k := 2) (bytes.trans total) rfl, u16_of_lt (by rw [udpHeaderSize, ipv4HeaderMinSize]; omega)]
  · rw [be16_of_split (bytes.trans datagram) front, u16_of_lt (by rw [udpHeaderSize]; omega)]

end Lengths

/- The call. -/

section Call

variable {s : SocketId} {remoteAddr : Addr} {remotePort : Nat} {result : Except Error Unit}

theorem udpSendTo_packet (remotePort : Nat) (owned : Owned cfg [] net) (carved : Carved net)
    (open_ : (net.sockets s).hasNet = true)
    (target : udpTarget net remoteAddr = some i) (short : payload.length ≤ 1472) (free : nextFree cfg net = some b) :
    ∃ q ipSum udpSum, udpSendTo cfg env s remoteAddr remotePort payload net =
        arpResolve cfg env i (ipv4NextHop (net.interfaces i) remoteAddr) b (net.nextId.setPacket b q) ∧
      Owned cfg [b] (net.nextId.setPacket b q) ∧
      Carries 36 (sentPacket cfg net.ipv4Id (net.interfaces i).ipAddr remoteAddr (net.sockets s).localPort remotePort
        payload ipSum udpSum) q := by
  obtain ⟨p₁, segment_in, built⟩ := udpBuild_headed (i := i) (p := { net.packetPool b with
    isInUse := true, dataOffset := 0, dataLength := 0, flags := 0 }) net b
      (net.sockets s).localPort remoteAddr remotePort
    (carved b) rfl short
  generalize segmentChecksum (net.interfaces i).ipAddr remoteAddr (net.sockets s).localPort remotePort payload =
    udpSum at built
  have summed : ∃ udpSum', Carries 56 (udpSegment (net.sockets s).localPort remotePort payload udpSum')
      (if (net.interfaces i).checksumCaps.udpTx then { p₁ with flags := p₁.flags ||| 0x02 }
      else p₁.write 6 (be16Bytes udpSum)) := by
    split
    · exact ⟨0, segment_in.capacity, segment_in.isInUse, segment_in.dataOffset, segment_in.bytes_eq⟩
    · exact ⟨udpSum, segment_in.splice (k := 6) _ (by simp) (by simp)⟩
  generalize (if (net.interfaces i).checksumCaps.udpTx then { p₁ with flags := p₁.flags ||| 0x02 }
      else p₁.write 6 (be16Bytes udpSum)) = q₁ at built summed
  obtain ⟨udpSum', segment_in'⟩ := summed
  obtain ⟨p₂, header_in, headed⟩ := ipv4Build_headed (i := i) cfg net b remoteAddr segment_in'
    (by rw [length_udpSegment, udpHeaderSize]; omega)
  rw [length_udpSegment] at header_in headed
  generalize headerChecksum cfg (payload.length + udpHeaderSize + ipv4HeaderMinSize) net.ipv4Id
    (net.interfaces i).ipAddr
    remoteAddr = ipSum at headed
  have summed : ∃ ipSum', Carries 36 (sentPacket cfg net.ipv4Id (net.interfaces i).ipAddr remoteAddr
      (net.sockets s).localPort remotePort payload ipSum' udpSum')
      (if (net.interfaces i).checksumCaps.ipTx then { p₂ with flags := p₂.flags ||| 0x01 }
      else p₂.write 10 (be16Bytes ipSum)) := by
    split
    · exact ⟨0, header_in.capacity, header_in.isInUse, header_in.dataOffset, header_in.bytes_eq⟩
    · refine ⟨ipSum, ?_⟩
      rw [packetHeader_split] at header_in
      rw [sentPacket, packetHeader_split]
      exact header_in.splice (k := 10) _ (by simp) (by simp)
  obtain ⟨ipSum', carries⟩ := summed
  obtain ⟨run, owned'⟩ := udpSendTo_built env remotePort owned open_ target free built headed carries.isInUse
  exact ⟨_, ipSum', udpSum', run, owned', carries⟩

/-- What the call promises: writes below the end of the buffers, frames a driver takes, and
true lengths in what leaves and in what waits. -/
structure Confined (cfg : Config) (payload : List UInt8) (net net' : Stack) : Prop where
  inside : ∀ b k, (net.packetPool b).capacity ≤ k → (net'.packetPool b).buffer k = (net.packetPool b).buffer k
  framed : ∃ new, net'.transmitted = new ++ net.transmitted ∧ ∀ frame ∈ new,
    frame.bytes.length ≤ ethernetMtu + ethernetHeaderSize ∧
      (be16 (fun k => frame.bytes.getD k 0) 12 = ethertypeIpv4 →
        TrueLengths payload.length fun k => frame.bytes.getD (ethernetHeaderSize + k) 0)
  waiting : ∀ b, nextFree cfg net = some b → net'.inUse b = true → TrueLengths payload.length (net'.packetPool b).data

/-- An error before anything is written, or a call that keeps its promise. -/
def Bounded (cfg : Config) (env : Env) (s : SocketId) (remoteAddr : Addr) (remotePort : Nat) (payload : List UInt8)
    (net : Stack) : Prop :=
  ∀ result net', udpSendTo cfg env s remoteAddr remotePort payload net = some (result, net') →
    ((∃ error, result = .error error) ∧ ∀ b, (net'.packetPool b).buffer = (net.packetPool b).buffer) ∨
      Confined cfg payload net net'

/-- The call finds an open socket, an interface and a buffer. -/
def Admitted (cfg : Config) (net : Stack) (s : SocketId) (remoteAddr : Addr) : Prop :=
  (net.sockets s).hasNet = true ∧ (udpTarget net remoteAddr).isSome = true ∧ (nextFree cfg net).isSome = true

theorem OnWire.framed {ident ipSum udpSum srcPort destPort : Nat} {srcAddr destAddr : Addr} {frame : Frame}
    (short : payload.length ≤ 1472)
    (wire : OnWire (sentPacket cfg ident srcAddr destAddr srcPort destPort payload ipSum udpSum) frame) :
    frame.bytes.length ≤ ethernetMtu + ethernetHeaderSize ∧
      (be16 (fun k => frame.bytes.getD k 0) 12 = ethertypeIpv4 →
        TrueLengths payload.length fun k => frame.bytes.getD (ethernetHeaderSize + k) 0) := by
  have type : ∀ dest src ethertype packet,
      be16 (fun k => (etherFrame dest src ethertype packet).getD k 0) 12 = u16 ethertype := by
    intro dest src ethertype packet
    exact be16_getD (a := List.ofFn dest ++ List.ofFn src) (b := packet ++ padding packet) rfl (by simp)
  rcases wire with ⟨dest, src, same⟩ | ⟨dest, src, message, size, same⟩
  · rw [same, length_etherFrame, length_sentPacket, ethernetMtu, ethernetHeaderSize]
    refine ⟨by omega, fun _ => ?_⟩
    exact sentPacket_lengths (length_ethernetHeader _ _ _) _ short
  · rw [same, length_etherFrame, size, type]
    exact ⟨by decide, fun arp => absurd arp (by decide)⟩

theorem refused_run (owned : Owned cfg [] net) (refused : ¬Admitted cfg net s remoteAddr) :
    ∃ error, udpSendTo cfg env s remoteAddr remotePort payload net = some (.error error, net) := by
  cases opened : (net.sockets s).hasNet with
  | false => exact ⟨_, udpSendTo_closed opened⟩
  | true =>
    cases target : udpTarget net remoteAddr with
    | none =>
      refine ⟨.linkDown, ?_⟩
      rw [udpSendTo, bind_ok _ (read_run _), reject_bind_neg _ (by simp [opened]), id_eq, target]
      rfl
    | some i =>
      cases free : nextFree cfg net with
      | none => exact ⟨_, udpSendTo_full owned.initialized opened target free⟩
      | some b =>
        refine absurd ⟨opened, ?_, ?_⟩ refused
        · rw [target]
          rfl
        · rw [free]
          rfl

theorem short_bounded (owned : Owned cfg [] net) (carved : Carved net) (short : payload.length ≤ 1472) :
    Bounded cfg env s remoteAddr remotePort payload net := by
  intro result net' run
  by_cases admitted : Admitted cfg net s remoteAddr
  · obtain ⟨open_, has_target, has_buffer⟩ := admitted
    obtain ⟨i, target⟩ := Option.isSome_iff_exists.mp has_target
    obtain ⟨b, free⟩ := Option.isSome_iff_exists.mp has_buffer
    have beyond := udpSendTo_beyond env (fun c k => (net.packetPool c).buffer k) owned.initialized open_ target free
      ⟨carved, fun _ _ _ => rfl⟩ run
    obtain ⟨q, ipSum, udpSum, ran, owned', carries⟩ :=
      udpSendTo_packet env remotePort owned carved open_ target short free
    rw [ran] at run
    refine .inr ⟨?_, ?_, ?_⟩
    · intro c k high
      rw [carved c] at high
      rw [beyond.2 c k high, laid, if_neg]
      rintro ⟨-, -, inside⟩
      rw [packetFrameSize] at high
      omega
    · have start : Ready b 36 (sentPacket cfg net.ipv4Id (net.interfaces i).ipAddr remoteAddr (net.sockets s).localPort
          remotePort payload ipSum udpSum) (sentPacket cfg net.ipv4Id (net.interfaces i).ipAddr remoteAddr
          (net.sockets s).localPort remotePort payload ipSum udpSum) net.transmitted (net.nextId.setPacket b q) := by
        refine ⟨?_, ?_, [], rfl, fun _ mem => absurd mem List.not_mem_nil⟩
        · rw [packetPool_setPacket]
          exact carries
        · exact unaffected_carved.packet net.nextId b q (carries.capacity.trans (carved b).symm) carved
      have fits : (sentPacket cfg net.ipv4Id (net.interfaces i).ipAddr remoteAddr (net.sockets s).localPort
          remotePort payload ipSum udpSum).length ≤ 1500 := by
        rw [length_sentPacket]
        omega
      obtain ⟨-, new, sent, all⟩ := (arpResolve_out env fits).always start run
      exact ⟨new, sent, fun frame mem => (all frame mem).framed short⟩
    · intro c taken used
      rw [free] at taken
      cases taken
      have fixed : Fixed b q (net.nextId.setPacket b q) := packetPool_setPacket _ _ _
      have left : Left b q net' := (arpResolve_left carries.isInUse owned' fixed).always rfl run
      rw [left used]
      exact carries.lengths short
  · obtain ⟨error, ran⟩ := refused_run env owned admitted
    rw [ran] at run
    cases run
    exact .inl ⟨⟨error, rfl⟩, fun _ => rfl⟩

theorem long_unbounded (owned : Owned cfg [] net) (carved : Carved net) (admitted : Admitted cfg net s remoteAddr)
    (long : 1472 < payload.length)
    (differs : ∀ b, nextFree cfg net = some b → (net.packetPool b).buffer packetFrameSize ≠ payload.getD 1472 0) :
    ¬Bounded cfg env s remoteAddr remotePort payload net := by
  intro bounded
  obtain ⟨open_, has_target, has_buffer⟩ := admitted
  obtain ⟨i, target⟩ := Option.isSome_iff_exists.mp has_target
  obtain ⟨b, free⟩ := Option.isSome_iff_exists.mp has_buffer
  have ends : Steady (fun _ => True) (udpSendTo cfg env s remoteAddr remotePort payload) :=
    udpSendTo_steady env ⟨⟨fun _ _ _ _ _ => trivial, fun _ _ _ _ => trivial, fun _ _ _ => trivial⟩, fun _ _ _ => trivial⟩
  obtain ⟨result, net', run, -⟩ := ends net trivial
  have beyond := udpSendTo_beyond env (fun c k => (net.packetPool c).buffer k) owned.initialized open_ target free
    ⟨carved, fun _ _ _ => rfl⟩ run
  have laid_there : (net'.packetPool b).buffer packetFrameSize = payload.getD 1472 0 := by
    have reached : b = b ∧ 64 ≤ packetFrameSize ∧ packetFrameSize < 64 + payload.length := by
      rw [packetFrameSize]
      omega
    rw [beyond.2 b packetFrameSize (le_refl _), laid, if_pos reached]
    rfl
  apply differs b free
  rw [← laid_there]
  rcases bounded result net' run with ⟨-, untouched⟩ | confined
  · rw [untouched b]
  · exact (confined.inside b packetFrameSize (le_of_eq (carved b))).symm

def Stack.withMemory (net : Stack) (memory : Nat → Nat → UInt8) : Stack :=
  { net with packetPool := fun b => { net.packetPool b with buffer := memory b } }

/-- In every reachable state, a call to send stays in bounds whatever the buffers hold just
if the payload fits a frame or the call is refused before it takes a buffer. -/
theorem udp_send_bounded_iff (cfg : Config) (env : Env) {memory : Nat → Nat → UInt8}
    {trace : List (Transition Stack Op (Except Error Unit))} {net : Stack}
    (run : (machine cfg env).Run (Stack.init memory) trace net) (s : SocketId) (remoteAddr : Addr) (remotePort : Nat)
    (payload : List UInt8) :
    (∀ memory, Bounded cfg env s remoteAddr remotePort payload (net.withMemory memory)) ↔
      payload.length ≤ 1472 ∨ ¬Admitted cfg net s remoteAddr := by
  have owned : ∀ memory, Owned cfg [] (net.withMemory memory) := fun _ =>
    (run_owned env run).congr ⟨rfl, rfl, fun _ => rfl, fun _ _ => rfl, fun _ _ _ _ h => h⟩
  have carved : ∀ memory, Carved (net.withMemory memory) := fun _ b => run_carved env run b
  constructor
  · intro bounded
    by_contra neither
    rw [not_or, not_le, not_not] at neither
    let memory : Nat → Nat → UInt8 := fun _ k => payload.getD (k - 64) 0 + 1
    apply long_unbounded env (owned memory) (carved memory) neither.2 neither.1 _ (bounded memory)
    intro b _ same
    have step : payload.getD 1472 0 + 1 = payload.getD 1472 0 := same
    have value := congrArg UInt8.toNat step
    rw [UInt8.toNat_add, UInt8.toNat_one] at value
    omega
  · rintro (short | refused) memory
    · exact short_bounded env (owned _) (carved _) short
    · intro result net' ran
      obtain ⟨error, stopped⟩ := refused_run env (owned memory) refused
      rw [stopped] at ran
      cases ran
      exact .inl ⟨⟨error, rfl⟩, fun _ => rfl⟩

theorem udp_send_bounded_sample :
    (∀ memory, Bounded sampleConfig sampleEnv (.user 0) sampleNeighbour.ipAddr 9 [1, 2, 3] (sampleNet.withMemory memory)) ↔
      [1, 2, 3].length ≤ 1472 ∨ ¬Admitted sampleConfig sampleNet (.user 0) sampleNeighbour.ipAddr :=
  udp_send_bounded_iff sampleConfig sampleEnv (Machine.run_of_legal sampleSender_legal)
    (.user 0) sampleNeighbour.ipAddr 9
    [1, 2, 3]

/-- One byte more than fits a frame goes past the end. -/
theorem udp_send_overflows :
    ¬∀ payload : List UInt8, payload.length < 2 ^ 32 →
      Bounded sampleConfig sampleEnv (.user 0) sampleNeighbour.ipAddr 9 payload sampleNet := by
  intro bounded
  have run := Machine.run_of_legal sampleSender_legal
  have long : (List.replicate 1473 (1 : UInt8)).length = 1473 := List.length_replicate
  apply long_unbounded sampleEnv (run_owned sampleEnv run) (run_carved sampleEnv run)
    ⟨by decide +kernel, by decide +kernel, by decide +kernel⟩ _ _
    (bounded (List.replicate 1473 1) (by rw [long]; decide))
  · rw [long]
    decide
  · intro b free
    have first : nextFree sampleConfig sampleNet = some 0 := by decide +kernel
    rw [first] at free
    cases free
    have last : (List.replicate 1473 (1 : UInt8)).getD 1472 0 = 1 := List.getD_replicate _ (show 1472 < 1473 by decide)
    rw [last]
    decide +kernel

end Call

end XSDK.Net
