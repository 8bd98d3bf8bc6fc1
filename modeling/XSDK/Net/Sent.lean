import XSDK.Net.Datagram
import XSDK.Net.Steady

/-! The stack without its packets and ARP caches, which is all that sending changes. -/
namespace XSDK.Net

open Library Prog

variable {cfg : Config} {net : Stack} {i : Nat}

def Interface.bare (interface : Interface) : Interface :=
  { interface with arpCache := fun _ => ArpEntry.zero }

def Stack.outline (net : Stack) : Stack :=
  { net with
    packetPool := fun _ => ⟨fun _ => 0, 0, 0, 0, false, 0⟩, interfaces := fun i => (net.interfaces i).bare,
    ipv4Id := 0, overwritten := [], transmitted := [] }

def Stack.face (net : Stack) (i : Nat) : Interface := (net.interfaces i).bare

theorem face_setInterface (net : Stack) (i k : Nat) (interface : Interface) :
    (net.setInterface i interface).face k = if k = i then interface.bare else net.face k := by
  by_cases same : k = i
  · subst same
    simp [Stack.face, Stack.setInterface]
  · simp [Stack.face, Stack.setInterface, same]

theorem outline_cache (net : Stack) (i : Nat) (cache : Nat → ArpEntry) :
    (net.setInterface i { net.interfaces i with arpCache := cache }).outline = net.outline := by
  have same : ∀ k, (net.setInterface i { net.interfaces i with arpCache := cache }).face k = net.face k := by
    intro k
    rw [face_setInterface]
    split
    · next at_k =>
      subst at_k
      rfl
    · rfl
  exact congrArg (fun interfaces => { net.outline with interfaces := interfaces }) (funext same)

theorem apart_outline (Q : Stack → Prop) : Apart fun net => Q net.outline where
  packet := fun _ _ _ _ h => h
  cache := by
    intro net i cache h
    rw [outline_cache]
    exact h
  transmitted := fun _ _ h => h
  ipv4Id := fun _ _ h => h

theorem apart_face (i : Nat) (Q : Interface → Prop) : Apart fun net => Q (net.face i) :=
  apart_outline fun outline => Q (outline.interfaces i)

end XSDK.Net

/-! What a call that sends a datagram hands to the drivers: the datagram with its payload
behind 42 bytes of headers, or an ARP frame, which ends before it would have one. -/
namespace XSDK.Net

open Library Prog PacketBuffer
open List (append_assoc length_append length_take)

variable {cfg : Config} (env : Env) {i b : Nat} {before : List Frame} {P : List UInt8 → Prop}

def Frame.payload (frame : Frame) : List UInt8 := frame.bytes.drop 42

/-- Every frame handed over since then is a short one or has a payload with P. -/
def Handed (P : List UInt8 → Prop) (before after : List Frame) : Prop :=
  ∃ new, after = new ++ before ∧ ∀ frame ∈ new, frame.bytes.length ≤ 60 ∨ P frame.payload

theorem Handed.refl : Handed P before before := ⟨[], rfl, nofun⟩

theorem Handed.cons {after : List Frame} {frame : Frame} (handed : Handed P before after)
    (fine : frame.bytes.length ≤ 60 ∨ P frame.payload) : Handed P before (frame :: after) := by
  obtain ⟨new, rfl, all⟩ := handed
  refine ⟨frame :: new, rfl, fun other mem => ?_⟩
  rcases List.mem_cons.mp mem with same | mem
  · rwa [same]
  · exact all other mem

theorem inner_handed : Inner fun net => Handed P before net.transmitted :=
  ⟨fun _ _ _ _ h => h, fun _ _ _ h => h, fun _ _ h => h⟩

/- ARP frames. -/

/-- A packet with so many bytes in it, and what was handed over. -/
def Sized (b size : Nat) (P : List UInt8 → Prop) (before : List Frame) (net : Stack) : Prop :=
  (net.packetPool b).dataLength = size ∧ Handed P before net.transmitted

variable {E : Error → Stack → Prop}

variable {f : PacketBuffer → PacketBuffer} {remoteAddr : Addr} {dest : Mac}

theorem updatePacket_sized {size size' : Nat} (sized : ∀ p, p.dataLength = size → (f p).dataLength = size') :
    Triple (Sized b size P before) (updatePacket b f) (fun _ => Sized b size' P before) E := by
  refine .modify fun net h => ⟨?_, h.2⟩
  rw [packetPool_setPacket]
  exact sized _ h.1

theorem ethernetPad_sized {size : Nat} (short : size ≤ 46) :
    Triple (Sized b size P before) (ethernetPad b) (fun _ => Sized b 46 P before)
      (fun _ net => Handed P before net.transmitted) := by
  refine .bind (R := fun p s => p.dataLength = size ∧ Sized b size P before s) (.read fun _ h => ⟨h.1, h⟩)
    fun p => .assuming fun length => .ite (fun _ => ?_) fun enough => .pure fun s h => ?_
  · refine .rejectThen (fun _ h => h.2) fun _ => ?_
    refine .bind (R := fun _ => Sized b size P before) (updatePacket_sized fun _ h => h) fun _ => ?_
    exact .readThen fun _ => .rejectThen (fun _ h => h.2) fun _ => updatePacket_sized fun _ _ => rfl
  · have full : size = 46 := by omega
    rwa [← full]

theorem ethernetTx_short {size : Nat} (short : size ≤ 46) {ethertype : Nat} :
    Triple (Sized b size P before) (ethernetTx cfg env i b dest ethertype)
      (fun _ net => Handed P before net.transmitted) (fun _ net => Handed P before net.transmitted) := by
  have push : Triple (Sized b 46 P before) (packetPush b ethernetHeaderSize) (fun _ => Sized b 60 P before)
      (fun _ net => Handed P before net.transmitted) := by
    refine .readThen fun _ => .rejectThen (fun _ h => h.2) fun _ => updatePacket_sized fun p h => ?_
    change u32 (p.dataLength + ethernetHeaderSize) = 60
    rw [h]
    rfl
  have build : Triple (Sized b 60 P before) (ethernetBuild i b dest ethertype) (fun _ => Sized b 60 P before)
      (fun _ net => Handed P before net.transmitted) :=
    .readThen fun _ => .rejectThen (fun _ h => h.2) fun _ => updatePacket_sized fun _ h => h
  have release : Keeps (fun net => Handed P before net.transmitted) (packetRelease cfg b) :=
    (packetRelease_steady inner_handed).keeps
  have handOver : Triple (Sized b 60 P before) (transmit env i b) (fun _ net => Handed P before net.transmitted)
      (fun _ net => Handed P before net.transmitted) := by
    refine .bind (R := fun net s => (net.packetPool b).bytes.length ≤ 60 ∧ Handed P before net.transmitted)
      (.read fun s h => ⟨?_, h.2⟩) fun net => .bind (R := fun _ s => Handed P before s.transmitted)
        (.modify fun s h => h.2.cons (.inl h.1)) fun _ => .pure fun _ h => h
    rw [length_bytes]
    exact Nat.le_of_eq h.1
  refine .bind (R := fun _ => Sized b 60 P before) (.onError ?_ fun _ => release) fun _ => ?_
  · refine .readThen fun _ => .rejectThen (fun _ h => h.2) fun _ => ?_
    exact .bind (ethernetPad_sized short) fun _ => .bind push fun _ => build
  · exact .bind handOver fun _ => .bind release.ignore fun _ => .finish (fun _ _ h _ => h) fun _ _ h _ => h

theorem arpSend_handed {operation : Nat} {targetMac : Mac} {targetIp : Addr} :
    Keeps (fun net => Handed P before net.transmitted) (arpSend cfg env i operation targetMac targetIp) := by
  refine .bind (packetAlloc_steady inner_handed).keeps fun c => ?_
  refine Triple.bind (R := fun _ => Sized c arpPacketSize P before) (.modify fun net h => ⟨?_, h⟩) fun _ => ?_
  · rw [packetPool_setPacket]
  · refine .readThen fun _ => .bind (R := fun _ => Sized c arpPacketSize P before)
      (updatePacket_sized fun _ h => h) fun _ => ?_
    exact ethernetTx_short env (by decide)

/- The datagram. -/

variable {offset headers size : Nat} {payload : List UInt8}

/-- The payload lies behind so many bytes of headers. -/
def Loaded (b offset headers : Nat) (payload : List UInt8) (P : List UInt8 → Prop)
    (before : List Frame) (net : Stack) : Prop :=
  (∃ header : List UInt8, header.length = headers ∧ Carries offset (header ++ payload) (net.packetPool b)) ∧
    Handed P before net.transmitted

def Pushed (b size offset headers : Nat) (payload : List UInt8) (P : List UInt8 → Prop) (before : List Frame)
    (net : Stack) : Prop :=
  (∃ (q : PacketBuffer) (header : List UInt8), header.length = headers ∧ Carries offset (header ++ payload) q ∧
    net.packetPool b = q.pushed size) ∧ Handed P before net.transmitted

theorem Carries.field {k : Nat} {header field : List UInt8} {p : PacketBuffer}
    (carries : Carries offset (header ++ payload) p) (inside : k + field.length ≤ header.length) :
    ∃ changed : List UInt8, changed.length = header.length ∧ Carries offset (changed ++ payload) (p.write k field) := by
  have split : header ++ payload =
      header.take k ++ (header.drop k).take field.length ++ ((header.drop k).drop field.length ++ payload) := by
    rw [← append_assoc, append_assoc (header.take k), List.take_append_drop, List.take_append_drop]
  rw [split] at carries
  have spliced := carries.splice (k := k) field (by rw [length_take]; omega)
    (by rw [length_take, List.length_drop]; omega)
  rw [← append_assoc] at spliced
  refine ⟨_, ?_, spliced⟩
  simp only [length_append, length_take, List.length_drop]
  omega

theorem updatePacket_loaded
    (loaded : ∀ (p : PacketBuffer) (header : List UInt8), header.length = headers → Carries offset (header ++ payload) p →
      ∃ changed : List UInt8, changed.length = headers ∧ Carries offset (changed ++ payload) (f p)) :
    Triple (Loaded b offset headers payload P before) (updatePacket b f)
      (fun _ => Loaded b offset headers payload P before) E := by
  refine .modify fun net h => ⟨?_, h.2⟩
  obtain ⟨header, length, carries⟩ := h.1
  rw [packetPool_setPacket]
  exact loaded _ header length carries

theorem writeField_loaded {k : Nat} {field : PacketBuffer → List UInt8}
    (inside : ∀ p, k + (field p).length ≤ headers) :
    Triple (Loaded b offset headers payload P before) (updatePacket b fun p => p.write k (field p))
      (fun _ => Loaded b offset headers payload P before) E := by
  refine updatePacket_loaded fun p header length carries => ?_
  have fits : k + (field p).length ≤ header.length := by
    rw [length]
    exact inside p
  obtain ⟨changed, same, carried⟩ := carries.field fits
  exact ⟨changed, same.trans length, carried⟩

theorem setFlags_loaded {flag : Nat} :
    Triple (Loaded b offset headers payload P before) (updatePacket b fun p => { p with flags := p.flags ||| flag })
      (fun _ => Loaded b offset headers payload P before) E :=
  updatePacket_loaded fun _ header length carries =>
    ⟨header, length, carries.capacity, carries.isInUse, carries.dataOffset, carries.bytes_eq⟩

theorem packetPush_loaded :
    Triple (Loaded b offset headers payload P before) (packetPush b size)
      (fun _ => Pushed b size offset headers payload P before) (fun _ net => Handed P before net.transmitted) := by
  refine .readThen fun _ => .rejectThen (fun _ h => h.2) fun _ => .modify fun net h => ⟨?_, h.2⟩
  obtain ⟨header, length, carries⟩ := h.1
  rw [packetPool_setPacket]
  exact ⟨_, header, length, carries, rfl⟩

theorem writeHeader_loaded {header : List UInt8} (length : header.length = size) (room : size ≤ offset)
    (small : headers + payload.length + size < 2 ^ 32) :
    Triple (Pushed b size offset headers payload P before) (writeData b 0 header)
      (fun _ => Loaded b (offset - size) (size + headers) payload P before) E := by
  refine .modify fun net h => ⟨?_, h.2⟩
  obtain ⟨q, old, old_length, carries, pushed⟩ := h.1
  have framed := carries.push header room (by rw [length_append]; omega) length
  rw [packetPool_setPacket, pushed]
  rw [← append_assoc] at framed
  exact ⟨header ++ old, by rw [length_append, length, old_length], framed⟩

def Fresh (b : Nat) (P : List UInt8 → Prop) (before : List Frame) (net : Stack) : Prop :=
  ((net.packetPool b).capacity = packetFrameSize ∧ (net.packetPool b).isInUse = true) ∧ Handed P before net.transmitted

theorem packetAlloc_fresh :
    Triple (fun net => Carved net ∧ Handed P before net.transmitted) (packetAlloc cfg) (fun b => Fresh b P before)
      (fun _ net => Handed P before net.transmitted) := by
  refine .readThen fun net => .rejectThen (fun _ h => h.2) fun _ => ?_
  split
  · exact .fail fun _ h => h.2
  · next c _ =>
    refine .bind (R := fun _ => Fresh c P before) (.modify fun s h => ⟨?_, h.2⟩) fun _ => .pure fun _ h => h
    rw [packetPool_setPacket]
    exact ⟨h.1 c, rfl⟩

theorem udpBuild_loaded {localPort remotePort : Nat} (short : payload.length ≤ 1472) :
    Triple (Fresh b P before) (udpBuild i b localPort remoteAddr remotePort payload)
      (fun _ => Loaded b 56 8 payload P before) (fun _ net => Handed P before net.transmitted) := by
  have load : Triple (Fresh b P before) (updatePacket b fun p => { p with dataOffset := 64, dataLength := u32 payload.length })
      (fun _ net => (∃ p : PacketBuffer, p.capacity = packetFrameSize ∧ p.isInUse = true ∧
        net.packetPool b = { p with dataOffset := 64, dataLength := u32 payload.length }) ∧ Handed P before net.transmitted)
      (fun _ net => Handed P before net.transmitted) := by
    refine .modify fun net h => ⟨⟨net.packetPool b, h.1.1, h.1.2, ?_⟩, h.2⟩
    rw [packetPool_setPacket]
  refine .bind load fun _ => .bind (R := fun _ => Loaded b 64 0 payload P before)
    (.modify fun net h => ⟨?_, h.2⟩) fun _ => ?_
  · obtain ⟨p, capacity, used, loaded⟩ := h.1
    rw [packetPool_setPacket, loaded]
    exact ⟨[], rfl, carries_loaded capacity used short⟩
  · refine .bind packetPush_loaded fun _ => .bind (writeHeader_loaded (by simp [udpHeader, udpHeaderSize]) (by decide)
      (by rw [udpHeaderSize]; omega)) fun _ => .readThen fun _ => .ite (fun _ => setFlags_loaded) fun _ => ?_
    exact writeField_loaded fun p => by simp [be16Bytes, udpHeaderSize]

theorem ipv4Build_loaded {dest : Addr} {protocol : Nat} (short : payload.length ≤ 1472) :
    Triple (Loaded b 56 8 payload P before) (ipv4Build cfg i b dest protocol)
      (fun _ => Loaded b 36 28 payload P before) (fun _ net => Handed P before net.transmitted) := by
  refine .bind packetPush_loaded fun _ => .readThen fun net => ?_
  refine .bind (R := fun _ => Pushed b ipv4HeaderMinSize 56 8 payload P before) (.modify fun _ h => h) fun _ => ?_
  refine .bind (writeHeader_loaded (by simp [ipv4Header, be16Bytes, ipv4HeaderMinSize]) (by decide)
    (by rw [ipv4HeaderMinSize]; omega)) fun _ => .ite (fun _ => setFlags_loaded) fun _ => ?_
  exact writeField_loaded fun p => by simp [be16Bytes, ipv4HeaderMinSize]

theorem ethernetTx_handed (long : 18 ≤ payload.length) (short : payload.length ≤ 1472) (wanted : P payload) :
    Triple (Loaded b 36 28 payload P before) (ethernetTx cfg env i b dest ethertypeIpv4)
      (fun _ net => Handed P before net.transmitted) (fun _ net => Handed P before net.transmitted) := by
  apply Triple.forState
  rintro net ⟨⟨header, length, carries⟩, handed⟩
  have packet : (header ++ payload).length ≤ 1500 := by
    rw [length_append]
    omega
  have same : net.setPacket b (net.packetPool b) = net := by
    rw [Stack.setPacket, Function.update_eq_self]
  have sends : Triple (· = net.setPacket b (net.packetPool b)) (ethernetTx cfg env i b dest ethertypeIpv4)
      (fun _ s => Sends i dest (header ++ payload) net.transmitted s.transmitted)
      (fun _ s => Sends i dest (header ++ payload) net.transmitted s.transmitted) :=
        ethernetTx_sends env dest carries packet
  rw [same] at sends
  have after : ∀ frames, Sends i dest (header ++ payload) net.transmitted frames → Handed P before frames := by
    rintro frames (unsent | ⟨src, flags, sent⟩)
    · rwa [unsent]
    · rw [sent]
      refine handed.cons (.inr ?_)
      have full : padding (header ++ payload) = [] := by
        rw [padding, length_append, Nat.sub_eq_zero_of_le (by omega)]
        rfl
      have front : (ethernetHeader dest src ethertypeIpv4 ++ header).length = 42 := by
        rw [length_append, length_ethernetHeader, length]
        rfl
      rw [Frame.payload, packetFrame, full, List.append_nil, ← append_assoc, ← front, List.drop_left]
      exact wanted
  exact sends.weaken (fun _ h => h) (fun _ s h => after s.transmitted h) fun _ s h => after s.transmitted h

theorem arpResolve_handed {ipAddr : Addr} (long : 18 ≤ payload.length)
    (short : payload.length ≤ 1472) (wanted : P payload) :
    Triple (Loaded b 36 28 payload P before) (arpResolve cfg env i ipAddr b)
      (fun _ net => Handed P before net.transmitted) (fun _ net => Handed P before net.transmitted) := by
  have direct : ∀ dest, Triple (Loaded b 36 28 payload P before) (ethernetTx cfg env i b dest ethertypeIpv4)
      (fun _ net => Handed P before net.transmitted) (fun _ net => Handed P before net.transmitted) :=
    fun dest => ethernetTx_handed env long short wanted
  have kept : ∀ {α : Type} {m : StackM α}, Keeps (fun net => Handed P before net.transmitted) m →
      Triple (Loaded b 36 28 payload P before) m (fun _ net => Handed P before net.transmitted)
        (fun _ net => Handed P before net.transmitted) :=
    fun keeps => keeps.weaken (fun _ h => h.2) (fun _ _ h => h) fun _ _ h => h
  refine .ite (fun _ => direct _) fun _ => .ite (fun _ => direct _) fun _ => .readThen fun net => ?_
  split
  · exact direct _
  · split
    · exact kept (arpPark_steady inner_handed).keeps
    · refine kept (.bind (arpCacheAllocateEntry_steady inner_handed).keeps fun found => ?_)
      split
      · exact .bind (packetRelease_steady inner_handed).keeps.ignore fun _ => .fail
      · exact .bind .read fun _ => .bind (updateEntry_steady inner_handed).keeps fun _ => (arpSend_handed env).ignore

theorem udpSendTo_handed {s : SocketId} {remotePort : Nat} (long : 18 ≤ payload.length)
    (short : payload.length ≤ 1472) (wanted : P payload) :
    Triple (fun net => Carved net ∧ Handed P before net.transmitted) (udpSendTo cfg env s remoteAddr remotePort payload)
      (fun _ net => Handed P before net.transmitted) (fun _ net => Handed P before net.transmitted) := by
  refine .readThen fun net => .rejectThen (fun _ h => h.2) fun _ => ?_
  split
  · exact .fail fun _ h => h.2
  · refine .bind packetAlloc_fresh fun b => .bind (.onError (udpBuild_loaded short) fun _ => ?_) fun _ => ?_
    · exact (packetRelease_steady inner_handed).keeps
    · exact .bind (ipv4Build_loaded short) fun _ => .readThen fun _ => arpResolve_handed env long short wanted

end XSDK.Net
