import XSDK.Net.Pool

/-! Every call of the stack leaves each pool buffer with the owner it had, or hands it on. -/
namespace XSDK.Net

open Library Prog

variable {cfg : Config} (env : Env) {held : List Nat} {net net' : Stack} {i j b : Nat} {E : Error → Stack → Prop}

theorem ethernetTx_owned {dest : Mac} {ethertype : Nat} :
    Triple (Owned cfg (b :: held)) (ethernetTx cfg env i b dest ethertype) (fun _ => Owned cfg held)
      (fun _ => Done cfg b held) :=
  (ethernetTx_done env).weaken (fun _ h => h) (fun _ _ h => h.1) fun _ _ h => h

theorem arpSend_keeps {operation : Nat} {targetMac : Mac} {targetIp : Addr} :
    Keeps (Owned cfg held) (arpSend cfg env i operation targetMac targetIp) := by
  refine Triple.bind packetAlloc_spec fun b => ?_
  refine .bind (R := fun _ => Owned cfg (b :: held)) (updatePacket_owned fun _ => rfl) fun _ => ?_
  refine .bind (R := fun _ => Owned cfg (b :: held)) (.read fun _ h => h) fun interface => ?_
  refine .bind (R := fun _ => Owned cfg (b :: held)) writeData_owned fun _ => ?_
  exact (ethernetTx_owned env).weaken (fun _ h => h) (fun _ _ h => h) fun _ _ h => h.1

variable {ipAddr : Addr}

theorem arpEntryFor_spec :
    Triple (Owned cfg held) (arpEntryFor cfg i ipAddr)
      (fun found s => Owned cfg held s ∧ ∀ j, found = some j → j < cfg.arpCacheSize) E := by
  refine .bind (R := fun _ => Owned cfg held) (.read fun s hs => hs) fun n => ?_
  split
  · next j found =>
    refine .pure fun s hs => ⟨hs, fun k eq => ?_⟩
    cases eq
    exact (arpFind_spec found).1
  · exact arpCacheAllocateEntry_spec.weaken (fun _ h => h) (fun _ s hs => ⟨hs.1, fun j eq => (hs.2 j eq).1⟩)
      fun _ _ h => h

theorem setEntry_setEntry (net : Stack) (i j : Nat) (entry entry' : ArpEntry) :
    (net.setEntry i j entry).setEntry i j entry' = net.setEntry i j entry' := by
  simp [Stack.setEntry, Stack.setInterface]

def Sendable (cfg : Config) (held : List Nat) (i j : Nat) (net : Stack) : Prop :=
  match (net.entry i j).pendingPacket with
  | none => Owned cfg held net
  | some b => Owned cfg (b :: held) (net.setEntry i j { net.entry i j with pendingPacket := none })

theorem Owned.sendable (owned : Owned cfg held net) (lt : j < cfg.arpCacheSize) {entry : ArpEntry}
    (pointer : entry.pendingPacket = (net.entry i j).pendingPacket) :
    Sendable cfg held i j (net.setEntry i j entry) := by
  rw [Sendable, entry_setEntry, if_pos ⟨rfl, rfl⟩]
  cases parked : entry.pendingPacket with
  | none =>
    refine owned.setEntry pointer fun b before => ?_
    exact nomatch parked.symm.trans (pointer.trans before.2)
  | some b =>
    dsimp only
    rw [setEntry_setEntry]
    exact owned.unpark ⟨lt, pointer.symm.trans parked⟩ rfl

theorem sendable_leaves {m : Nat → StackM Unit}
    (gives : ∀ net b, net.isInitialized = true → b < cfg.packetPoolSize → net.inUse b = true →
      Triple (· = net) (m b) (fun _ => Released b net) (fun _ => Released b net)) :
    Triple (Sendable cfg held i j) (do
      let entry ← read fun net => net.entry i j
      match entry.pendingPacket with
      | none => pure ()
      | some b =>
        ignore (m b)
        updateEntry i j fun entry => { entry with pendingPacket := none })
      (fun _ => Owned cfg held) E := by
  apply Triple.forState
  intro net sendable
  refine .bind (R := fun e s => e = net.entry i j ∧ s = net) (.read fun s hs => ⟨hs ▸ rfl, hs⟩) fun e =>
    .assuming fun he => ?_
  subst he
  rw [Sendable] at sendable
  cases parked : (net.entry i j).pendingPacket with
  | none =>
    rw [parked] at sendable
    exact .pure fun s hs => hs ▸ sendable
  | some b =>
    rw [parked] at sendable
    have owned : Owned cfg (b :: held) (net.setEntry i j { net.entry i j with pendingPacket := none }) := sendable
    have lt := owned.held_lt b List.mem_cons_self
    have used : net.inUse b = true := (owned.inUse b lt).mpr (.inl List.mem_cons_self)
    have initialized : net.isInitialized = true := owned.initialized
    exact (clear_parked (gives net b initialized lt used) owned).weaken (fun _ h => h) (fun _ _ h => h.1) fun _ _ h => h

theorem arpCacheUpdate_owned {macAddr : Mac} :
    Triple (Owned cfg held) (arpCacheUpdate cfg env i ipAddr macAddr) (fun _ => Owned cfg held) E := by
  refine .bind arpEntryFor_spec fun found => ?_
  cases found with
  | none => exact .pure fun s hs => hs.1
  | some j =>
    refine .bind (R := fun _ s => Owned cfg held s ∧ j < cfg.arpCacheSize) (.read fun s hs => ⟨hs.1, hs.2 j rfl⟩)
      fun currentTime => ?_
    refine .bind (R := fun _ => Sendable cfg held i j) ?_ fun _ =>
      sendable_leaves fun _ _ initialized lt used => ethernetTx_released env initialized lt used
    rw [updateEntry_eq]
    exact .modify fun s hs => hs.1.sendable hs.2 rfl

theorem arpPark_owned (lt : j < cfg.arpCacheSize) :
    Triple (fun s => Owned cfg (b :: held) s ∧ (s.entry i j).state = .pending) (arpPark cfg i j b)
      (fun _ => Owned cfg held) E := by
  apply Triple.forState
  rintro net ⟨owned, state⟩
  refine .bind (releaseParked_spec lt owned) fun _ => ?_
  rw [updateEntry_eq]
  refine .modify fun s hs => ?_
  have empty : (s.entry i j).pendingPacket = none := by rw [hs.2]
  have waiting : (s.entry i j).state = .pending := by rw [hs.2]; exact state
  exact hs.1.park lt empty rfl waiting

theorem waiting_of_unresolved (unresolved : arpCacheQuery cfg net i ipAddr = none)
    (found : arpFind cfg net i (fun e => decide (e.state ≠ .free ∧ e.ipAddr = ipAddr)) = some j) :
    j < cfg.arpCacheSize ∧ (net.entry i j).state = .pending := by
  obtain ⟨lt, test⟩ := arpFind_spec found
  obtain ⟨used, address⟩ := of_decide_eq_true test
  have none := Option.map_eq_none_iff.mp unresolved
  have other := List.find?_eq_none.mp none j (List.mem_range.mpr lt)
  refine ⟨lt, ?_⟩
  cases state : (net.entry i j).state with
  | free => exact absurd state used
  | pending => rfl
  | resolved => exact absurd (decide_eq_true ⟨state, address⟩) other

theorem arpResolve_new :
    Triple (Owned cfg (b :: held)) (do
      match ← arpCacheAllocateEntry cfg i with
      | none =>
        ignore (packetRelease cfg b)
        fail .noPacketBuffer
      | some j =>
        let currentTime ← read Stack.systemTicks
        updateEntry i j fun entry =>
          { entry with
            ipAddr := ipAddr, state := .pending, timeoutMs := u32 (currentTime + cfg.arpEntryTimeoutMs),
            retryMs := u32 (currentTime + cfg.arpRetryTimeoutMs), retriesLeft := cfg.arpMaxRetries,
            needsRetransmit := false, pendingPacket := some b }
        ignore (arpSend cfg env i arpOpRequest zeroMac ipAddr))
      (fun _ => Owned cfg held) (fun _ => Done cfg b held) := by
  refine .bind arpCacheAllocateEntry_spec fun found => ?_
  cases found with
  | none =>
    refine .bind (R := fun _ => Done cfg b held) ?_ fun _ => .fail fun _ h => h
    have given : Triple (Owned cfg (b :: held)) (packetRelease cfg b) (fun _ => Done cfg b held)
        (fun _ => Done cfg b held) :=
      packetRelease_spec
    exact (given.ignore (fun _ _ h => h) fun _ _ h => h).weaken (fun _ h => h.1) (fun _ _ h => h) fun _ _ h => h
  | some j =>
    refine .bind (R := fun _ s => Owned cfg (b :: held) s ∧ j < cfg.arpCacheSize ∧ (s.entry i j).pendingPacket = none)
      (.read fun s hs => ⟨hs.1, hs.2 j rfl⟩) fun currentTime => ?_
    rw [updateEntry_eq]
    refine .bind (R := fun _ => Owned cfg held) (.modify fun s hs => hs.1.park hs.2.1 hs.2.2 rfl rfl) fun _ => ?_
    exact (arpSend_keeps env).ignore

theorem arpResolve_owned :
    Triple (Owned cfg (b :: held)) (arpResolve cfg env i ipAddr b) (fun _ => Owned cfg held)
      (fun _ => Done cfg b held) := by
  refine .ite (fun _ => ethernetTx_owned env) fun _ => .ite (fun _ => ethernetTx_owned env) fun _ => ?_
  refine .bind (R := fun n s => n = s ∧ Owned cfg (b :: held) s) (.read fun s hs => ⟨rfl, hs⟩) fun n => ?_
  have owned : ∀ s, n = s ∧ Owned cfg (b :: held) s → Owned cfg (b :: held) s := fun s hs => hs.2
  split
  · exact (ethernetTx_owned env).weaken owned (fun _ _ h => h) fun _ _ h => h
  · next unresolved =>
    split
    · next j found =>
      obtain ⟨lt, state⟩ := waiting_of_unresolved unresolved found
      exact (arpPark_owned lt).weaken (fun s hs => ⟨hs.2, hs.1 ▸ state⟩) (fun _ _ h => h) fun _ _ h => h
    · exact (arpResolve_new env).weaken owned (fun _ _ h => h) fun _ _ h => h

theorem forIndices_keeps {I : Stack → Prop} {f : Nat → StackM Unit} {n : Nat} (h : ∀ k < n, Keeps I (f k)) :
    Keeps I (forIndices f n) := by
  induction n with
  | zero => exact .pure
  | succ n ih =>
    have earlier := ih fun k lt => h k (Nat.lt_succ_of_lt lt)
    exact .bind earlier fun _ => h n (Nat.lt_succ_self n)

theorem arpTickEntry_keeps (lt : j < cfg.arpCacheSize) : Keeps (Owned cfg held) (arpTickEntry cfg i j) := by
  refine Triple.bind (R := fun n s => n = s ∧ Owned cfg held s) (.read fun s hs => ⟨rfl, hs⟩) fun n => ?_
  have kept : Triple (fun s => n = s ∧ Owned cfg held s) (pure () : StackM Unit) (fun _ => Owned cfg held)
      (fun _ => Owned cfg held) := .pure fun s hs => hs.2
  dsimp only
  split
  · next state =>
    refine .ite (fun _ => .ite (fun _ => ?_) fun _ => ?_) fun _ => kept
    · rw [updateEntry_eq]
      exact .modify fun s hs => hs.2.setEntry rfl fun _ _ => hs.1 ▸ state
    · exact (arpEvict_spec lt).weaken (fun s hs => hs.2) (fun _ _ h => h.1) fun _ _ h => h
  · next state =>
    refine .ite (fun _ => ?_) fun _ => kept
    rw [updateEntry_eq]
    refine .modify fun s hs => hs.2.setEntry rfl fun b parked => ?_
    have pending := hs.2.parked_pending i j b parked
    rw [← hs.1, state] at pending
    cases pending
  · exact kept

theorem arpTick_keeps : Keeps (Owned cfg held) (arpTick cfg i) :=
  forIndices_keeps fun _ lt => arpTickEntry_keeps lt

/- IPv4 and UDP on their way out. -/

def Loose (cfg : Config) (b : Nat) (held : List Nat) (net : Stack) : Prop :=
  Done cfg b held net ∨ Owned cfg (b :: held) net

def HeldAt (cfg : Config) (b : Nat) (held : List Nat) (offset : Nat) (net : Stack) : Prop :=
  Owned cfg (b :: held) net ∧ (net.packetPool b).dataOffset = offset

theorem updatePacket_heldAt {f : PacketBuffer → PacketBuffer} {offset offset' : Nat}
    (used : ∀ p, (f p).isInUse = p.isInUse) (moved : ∀ p, p.dataOffset = offset → (f p).dataOffset = offset') :
    Triple (HeldAt cfg b held offset) (updatePacket b f) (fun _ => HeldAt cfg b held offset') E := by
  intro s hs r s' run
  have owned := updatePacket_owned (b := b) (E := E) used s hs.1 r s' run
  cases run
  refine ⟨owned, ?_⟩
  have here : ((s.setPacket b (f (s.packetPool b))).packetPool b) = f (s.packetPool b) := Function.update_self ..
  rw [here]
  exact moved _ hs.2

theorem packetPush_heldAt {offset size : Nat} (room : size ≤ offset) :
    Triple (HeldAt cfg b held offset) (packetPush b size) (fun _ => HeldAt cfg b held (offset - size)) E := by
  refine .bind (R := fun p s => p.dataOffset = offset ∧ HeldAt cfg b held offset s) (.read fun s hs => ⟨hs.2, hs⟩)
    fun p => .assuming fun hp => ?_
  refine .bind (R := fun _ => HeldAt cfg b held offset) (.reject (fun s hs c => ?_) fun s hs _ => hs) fun _ => ?_
  · omega
  · exact updatePacket_heldAt (fun _ => rfl) fun p hp => by rw [← hp]

variable {payload : List UInt8} {s : SocketId} {dest : Addr} {remoteAddr : Addr} {elapsedMs : Nat} {protocol : Nat} {srcIp : Addr}

theorem ipv4Header_owned {P : Stack → Prop} (n : Stack) (given : ∀ s, P s → Owned cfg (b :: held) s) :
    Triple P (do
      modify fun net => { net with ipv4Id := u16 (net.ipv4Id + 1) }
      writeData b 0
        (ipv4Header cfg (n.packetPool b).dataLength n.ipv4Id protocol (n.interfaces i).ipAddr dest)
      if (n.interfaces i).checksumCaps.ipTx then updatePacket b fun p => { p with flags := p.flags ||| 0x01 }
      else updatePacket b fun p => p.write 10 (be16Bytes (checksumCalculate p.data ipv4HeaderMinSize)))
      (fun _ => Owned cfg (b :: held)) E := by
  have counted : Triple (Owned cfg (b :: held)) (modify fun net : Stack => { net with ipv4Id := u16 (net.ipv4Id + 1) })
      (fun _ => Owned cfg (b :: held)) E :=
    owned_of_same fun _ => ⟨rfl, rfl, fun _ => rfl, fun _ _ => rfl, fun _ _ _ _ h => h⟩
  refine .bind (counted.weaken given (fun _ _ h => h) fun _ _ h => h) fun _ => .bind writeData_owned fun _ => ?_
  exact .ite (fun _ => updatePacket_owned fun _ => rfl) fun _ => updatePacket_owned fun _ => rfl

theorem ipv4Tx_loose :
    Triple (Owned cfg (b :: held)) (ipv4Tx cfg env i b dest protocol) (fun _ => Owned cfg held)
      (fun _ => Loose cfg b held) := by
  have build : Triple (Owned cfg (b :: held)) (ipv4Build cfg i b dest protocol) (fun _ => Owned cfg (b :: held))
      (fun _ => Loose cfg b held) := by
    refine .bind (packetPush_keeps.weaken (fun _ h => h) (fun _ _ h => h) fun _ _ h => .inr h) fun _ => ?_
    exact .bind (.read fun _ h => h) fun n => ipv4Header_owned n fun _ h => h
  refine .bind build fun _ => .bind (R := fun _ => Owned cfg (b :: held)) (.read fun _ h => h) fun interface => ?_
  exact (arpResolve_owned env).weaken (fun _ h => h) (fun _ _ h => h) fun _ _ h => .inl h

theorem ipv4Tx_owned {protocol offset : Nat} (room : ipv4HeaderMinSize ≤ offset) :
    Triple (HeldAt cfg b held offset) (ipv4Tx cfg env i b dest protocol) (fun _ => Owned cfg held)
      (fun _ => Owned cfg held) := by
  have build : Triple (HeldAt cfg b held offset) (ipv4Build cfg i b dest protocol) (fun _ => Owned cfg (b :: held))
      (fun _ => Owned cfg held) := by
    refine .bind (packetPush_heldAt room) fun _ => ?_
    refine .bind (R := fun _ => HeldAt cfg b held (offset - ipv4HeaderMinSize)) (.read fun _ h => h) fun n => ?_
    exact ipv4Header_owned n fun _ h => h.1
  refine .bind build fun _ => .bind (R := fun _ => Owned cfg (b :: held)) (.read fun _ h => h) fun interface => ?_
  exact (arpResolve_owned env).weaken (fun _ h => h) (fun _ _ h => h) fun _ _ h => h.1

theorem udpBuild_heldAt {localPort remotePort : Nat} :
    Triple (Owned cfg (b :: held)) (udpBuild i b localPort remoteAddr remotePort payload)
      (fun _ => HeldAt cfg b held (64 - udpHeaderSize)) E := by
  have window : Triple (Owned cfg (b :: held))
      (updatePacket b fun p => { p with dataOffset := 64, dataLength := u32 payload.length })
      (fun _ => HeldAt cfg b held 64) E := by
    intro s hs
    have moved : Triple (HeldAt cfg b held (s.packetPool b).dataOffset)
        (updatePacket b fun p => { p with dataOffset := 64, dataLength := u32 payload.length })
        (fun _ => HeldAt cfg b held 64) E := updatePacket_heldAt (fun _ => rfl) fun _ _ => rfl
    exact moved s ⟨hs, rfl⟩
  refine .bind window fun _ => ?_
  refine .bind (updatePacket_heldAt (fun _ => rfl) fun _ h => h) fun _ => ?_
  refine .bind (packetPush_heldAt (by decide)) fun _ => ?_
  refine .bind (updatePacket_heldAt (fun _ => rfl) fun _ h => h) fun _ => ?_
  refine .bind (R := fun _ => HeldAt cfg b held (64 - udpHeaderSize)) (.read fun _ h => h) fun interface => ?_
  exact .ite (fun _ => updatePacket_heldAt (fun _ => rfl) fun _ h => h) fun _ =>
    updatePacket_heldAt (fun _ => rfl) fun _ h => h

theorem udpSendTo_keeps {remotePort : Nat} :
    Keeps (Owned cfg held) (udpSendTo cfg env s remoteAddr remotePort payload) := by
  refine .bind .read fun n => .bind .reject fun _ => ?_
  split
  · exact .fail
  · next i target =>
    refine Triple.bind packetAlloc_spec fun b => ?_
    refine .bind (R := fun _ => HeldAt cfg b held (64 - udpHeaderSize)) ?_ fun _ => ipv4Tx_owned env (by decide)
    have built : Triple (Owned cfg (b :: held)) (udpBuild i b (n.sockets s).localPort remoteAddr remotePort payload)
        (fun _ => HeldAt cfg b held (64 - udpHeaderSize)) (fun _ _ => False) := udpBuild_heldAt
    exact built.onError fun _ _ h => h.elim

/- The socket list holds no packet. -/

theorem udpFind_keeps {p : Stack → SocketId → Bool} : Keeps (Owned cfg held) (udpFind cfg p) := by
  refine .bind .read fun n => ?_
  split
  · exact .hang
  · exact .pure

theorem portInUse_keeps {port : Nat} : Keeps (Owned cfg held) (portInUse cfg port) :=
  .bind udpFind_keeps fun _ => .pure

theorem ephemeralPort_keeps {start fuel : Nat} : Keeps (Owned cfg held) (ephemeralPort cfg start fuel) := by
  induction fuel with
  | zero => exact .fail
  | succ fuel ih =>
    refine .bind .read fun testPort => .bind ?_ fun _ => .bind portInUse_keeps fun inUse => ?_
    · exact owned_of_same fun _ => ⟨rfl, rfl, fun _ => rfl, fun _ _ => rfl, fun _ _ _ _ h => h⟩
    · exact .ite (fun _ => .pure) fun _ => .ite (fun _ => .fail) fun _ => ih

theorem udpOpen_keeps {localPort : Nat} : Keeps (Owned cfg held) (udpOpen cfg s localPort) := by
  have port : Keeps (Owned cfg held) (choosePort cfg localPort) := by
    refine .bind .read fun start => .ite (fun _ => ephemeralPort_keeps) fun _ => ?_
    exact .bind portInUse_keeps fun _ => .bind .reject fun _ => .pure
  refine .bind port fun _ => ?_
  exact owned_of_same fun _ => ⟨rfl, rfl, fun _ => rfl, fun _ _ => rfl, fun _ _ _ _ h => h⟩

theorem udpClose_keeps : Keeps (Owned cfg held) (udpClose cfg s) := by
  have unlink : Keeps (Owned cfg held) (udpUnlink cfg s) := by
    refine .bind .read fun n => ?_
    split
    · exact .hang
    · exact .fail
    · exact owned_of_same fun _ => ⟨rfl, rfl, fun _ => rfl, fun _ _ => rfl, fun _ _ _ _ h => h⟩
    · exact updateSocket_owned
  exact .bind .read fun _ => .bind .reject fun _ => .bind unlink fun _ => updateSocket_owned

/- The DHCP client. -/

theorem mem_parkedPackets : b ∈ parkedPackets cfg net i ↔ ∃ j, Parked cfg net i j b := by
  simp [parkedPackets, Parked, List.mem_filterMap]

def resetArp (cfg : Config) (net : Stack) (i : Nat) : Stack :=
  Stack.setInterface { net with overwritten := parkedPackets cfg net i ++ net.overwritten } i
    { net.interfaces i with
      arpCache := fun j => if j < cfg.arpCacheSize then ArpEntry.zero else (net.interfaces i).arpCache j }

theorem arpCacheInit_run : arpCacheInit cfg i net = some (.ok (), resetArp cfg net i) := rfl

theorem Owned.resetArp (owned : Owned cfg held net) : Owned cfg held (resetArp cfg net i) := by
  have later : ∀ i' j' c, Parked cfg (Net.resetArp cfg net i) i' j' c ↔ i' ≠ i ∧ Parked cfg net i' j' c := by
    intro i' j' c
    by_cases hi : i' = i
    · subst hi
      simp +contextual [Parked, Stack.entry, ArpEntry.zero, Net.resetArp]
    · simp [Parked, Stack.entry, hi, Net.resetArp]
  refine
    { owned with
      parked_lt := fun i' j' c h => owned.parked_lt i' j' c ((later i' j' c).mp h).2
      parked_unique := fun i₁ j₁ i₂ j₂ c h h' =>
        owned.parked_unique i₁ j₁ i₂ j₂ c ((later i₁ j₁ c).mp h).2 ((later i₂ j₂ c).mp h').2
      parked_pending := ?_
      parked_not_held := fun i' j' c h => owned.parked_not_held i' j' c ((later i' j' c).mp h).2
      overwritten_lt := ?_
      overwritten_not_held := ?_
      overwritten_not_parked := ?_
      inUse := ?_ }
  · intro i' j' c h
    obtain ⟨hi, before⟩ := (later i' j' c).mp h
    have same : (Net.resetArp cfg net i).entry i' j' = net.entry i' j' := by simp [Stack.entry, hi, Net.resetArp]
    rw [same]
    exact owned.parked_pending i' j' c before
  · intro c mem
    rcases List.mem_append.mp mem with mem | mem
    · obtain ⟨j, parked⟩ := mem_parkedPackets.mp mem
      exact owned.parked_lt i j c parked
    · exact owned.overwritten_lt c mem
  · intro c mem
    rcases List.mem_append.mp mem with mem | mem
    · obtain ⟨j, parked⟩ := mem_parkedPackets.mp mem
      exact owned.parked_not_held i j c parked
    · exact owned.overwritten_not_held c mem
  · intro c mem i' j' h
    obtain ⟨hi, before⟩ := (later i' j' c).mp h
    rcases List.mem_append.mp mem with mem | mem
    · obtain ⟨j, parked⟩ := mem_parkedPackets.mp mem
      exact hi (owned.parked_unique i' j' i j c before parked).1
    · exact owned.overwritten_not_parked c mem i' j' before
  · intro c hc
    change net.inUse c = true ↔ c ∈ held ∨ _ ∨ c ∈ parkedPackets cfg net i ++ net.overwritten
    rw [owned.inUse c hc, List.mem_append, mem_parkedPackets]
    simp only [later]
    constructor
    · rintro (h | ⟨i', j', h⟩ | h)
      · exact .inl h
      · by_cases hi : i' = i
        · exact .inr (.inr (.inl ⟨j', hi ▸ h⟩))
        · exact .inr (.inl ⟨i', j', hi, h⟩)
      · exact .inr (.inr (.inr h))
    · rintro (h | ⟨i', j', -, h⟩ | ⟨j', h⟩ | h)
      · exact .inl h
      · exact .inr (.inl ⟨i', j', h⟩)
      · exact .inr (.inl ⟨i, j', h⟩)
      · exact .inr (.inr h)

theorem arpCacheInit_owned : Triple (Owned cfg held) (arpCacheInit cfg i) (fun _ => Owned cfg held) E := by
  intro net owned r net' run
  rw [arpCacheInit_run] at run
  cases run
  exact owned.resetArp

theorem clearIpConfig_owned : Triple (Owned cfg held) (clearIpConfig cfg i) (fun _ => Owned cfg held) E :=
  .bind (updateInterface_owned fun _ => rfl) fun _ => arpCacheInit_owned

theorem dhcpSendMessage_keeps {msgType : Nat} : Keeps (Owned cfg held) (dhcpSendMessage cfg env i msgType) :=
  .bind .read fun _ => udpSendTo_keeps env

theorem dhcpHandleActiveState_keeps {reply : DhcpReply} {data : Nat → UInt8} :
    Keeps (Owned cfg held) (dhcpHandleActiveState cfg env i reply data) := by
  refine .ite (fun _ => ?_) fun _ => .ite (fun _ => ?_) fun _ => .pure
  · refine .bind (updateInterface_owned fun _ => rfl) fun _ => .bind arpCacheInit_owned fun _ => updateDhcp_owned
  · refine .bind clearIpConfig_owned fun _ => .bind updateDhcp_owned fun _ => ?_
    exact (dhcpSendMessage_keeps env).ignore

theorem dhcpRxCallback_keeps : Keeps (Owned cfg held) (dhcpRxCallback cfg env i payload) := by
  refine .bind .read fun interface => .ite (fun _ => .pure) fun _ => .bind updateDhcp_owned fun _ => ?_
  have selecting : ∀ msgType data, Keeps (Owned cfg held) (dhcpHandleSelectingState cfg env i msgType data) :=
    fun _ _ => .ite (fun _ => .bind updateDhcp_owned fun _ => (dhcpSendMessage_keeps env).ignore) fun _ => .pure
  split
  · exact selecting _ _
  all_goals first | exact dhcpHandleActiveState_keeps env | exact .pure

theorem dhcpStart_keeps : Keeps (Owned cfg held) (dhcpStart cfg env i) := by
  refine .bind .read fun ticks => .bind updateDhcp_owned fun _ => .bind updateSocket_owned fun _ => ?_
  refine .bind (udpOpen_keeps.onError updateDhcp_owned) fun _ => .bind clearIpConfig_owned fun _ => ?_
  exact .bind updateDhcp_owned fun _ => dhcpSendMessage_keeps env

theorem dhcpStop_keeps : Keeps (Owned cfg held) (dhcpStop cfg i) := by
  refine .bind .read fun dhcp => .ite (fun _ => ?_) fun _ => .pure
  exact .bind updateDhcp_owned fun _ => udpClose_keeps.ignore

theorem dhcpHandleRetryExhausted_keeps : Keeps (Owned cfg held) (dhcpHandleRetryExhausted cfg env i) := by
  refine .bind .read fun dhcp => ?_
  split
  · exact .bind updateDhcp_owned fun _ => dhcpStop_keeps.ignore
  · exact .bind updateDhcp_owned fun _ => (dhcpSendMessage_keeps env).ignore
  · exact .bind updateDhcp_owned fun _ => (dhcpSendMessage_keeps env).ignore
  · refine .bind updateDhcp_owned fun _ => .bind clearIpConfig_owned fun _ => .bind updateDhcp_owned fun _ => ?_
    exact (dhcpSendMessage_keeps env).ignore

theorem dhcpTick_keeps : Keeps (Owned cfg held) (dhcpTick cfg env i elapsedMs) := by
  have send : ∀ f msgType, Keeps (Owned cfg held)
      (updateDhcp i f >>= fun _ => ignore (dhcpSendMessage cfg env i msgType)) :=
    fun _ _ => .bind updateDhcp_owned fun _ => (dhcpSendMessage_keeps env).ignore
  have retries : Keeps (Owned cfg held) (dhcpTickRetries cfg env i elapsedMs) := by
    refine .bind .read fun dhcp => .ite (fun _ => .ite (fun _ => ?_) fun _ => updateDhcp_owned) fun _ => .pure
    exact .bind updateDhcp_owned fun _ => .ite (fun _ => send _ _) fun _ => dhcpHandleRetryExhausted_keeps env
  have expired : Keeps (Owned cfg held) (dhcpHandleLeaseExpired cfg env i) := .bind clearIpConfig_owned
    fun _ => send _ _
  have lease : Keeps (Owned cfg held) (dhcpTickLease cfg env i elapsedMs) := by
    refine .bind .read fun dhcp => .ite (fun _ => .bind updateDhcp_owned fun _ => ?_) fun _ => .pure
    exact .ite (fun _ => expired) fun _ => .ite (fun _ => send _ _) fun _ => .ite (fun _ => send _ _) fun _ => .pure
  exact .bind .read fun dhcp => .ite (fun _ => .pure) fun _ => .bind retries fun _ => lease

/- A frame on its way in. -/

theorem packetRelease_loose : Triple (Loose cfg b held) (packetRelease cfg b) (fun _ => Owned cfg held)
    (fun _ => Owned cfg held) := by
  intro s loose r s' run
  rcases loose with ⟨owned, free⟩ | owned
  · have same := packetRelease_idle free run
    cases r with
    | ok _ => exact same ▸ owned
    | error _ => exact same ▸ owned
  · have done := packetRelease_spec (E := fun _ => Owned cfg held) s owned r s' run
    cases r with
    | ok _ => exact done.1
    | error _ => exact done

theorem packetRelease_done : Triple (Owned cfg (b :: held)) (packetRelease cfg b) (fun _ => Done cfg b held)
    (fun _ => Done cfg b held) :=
  packetRelease_spec

theorem udpCallback_keeps {datagram : Datagram} :
    Triple (Owned cfg held) (udpCallback cfg env datagram) (fun _ => Owned cfg held) E := by
  refine .bind (R := fun _ => Owned cfg held) (.read fun _ h => h) fun received => ?_
  refine .bind (R := fun _ => Owned cfg held) ?_ fun _ => ?_
  · exact owned_of_same fun _ => ⟨rfl, rfl, fun _ => rfl, fun _ _ => rfl, fun _ _ _ _ h => h⟩
  · split
    · exact .pure fun _ h => h
    · exact (dhcpRxCallback_keeps env).attempt

theorem udpRx_owned :
    Triple (Owned cfg (b :: held)) (udpRx cfg env i b srcIp) (fun _ => Owned cfg held) (fun _ => Done cfg b held) := by
  have accept : Keeps (Owned cfg (b :: held)) (udpAccept cfg i b srcIp) := by
    refine .bind .read fun n => .bind .reject fun _ => .bind .reject fun _ => .bind ?_
      fun _ => .bind .reject fun _ => ?_
    · exact .onlyIf packetSetLength_keeps
    · refine .bind udpFind_keeps fun found => ?_
      split
      · exact .fail
      · exact .bind packetPull_keeps fun _ => .pure
  refine .bind (R := fun _ => Owned cfg (b :: held)) (.read fun _ h => h) fun header => ?_
  refine .bind (Triple.onError accept fun _ => packetRelease_done) fun s => ?_
  refine .bind (R := fun _ => Owned cfg (b :: held)) (.read fun _ h => h) fun n => .ite (fun _ => .hang) fun _ => ?_
  refine .bind (udpCallback_keeps env) fun result => .bind (R := fun _ => Done cfg b held) ?_ fun _ => ?_
  · exact packetRelease_done.ignore (fun _ _ h => h) fun _ _ h => h
  · exact .finish (fun _ _ h _ => h.1) fun _ _ h _ => h

theorem icmpRx_loose :
    Triple (Owned cfg (b :: held)) (icmpRx cfg env i b srcIp) (fun _ => Owned cfg held)
      (fun _ => Loose cfg b held) := by
  have accept : Keeps (Owned cfg (b :: held)) (icmpAccept i b) :=
    .bind .read fun n => .bind .reject fun _ => .bind .reject fun _ => .reject
  have accepted : Triple (Owned cfg (b :: held)) (onError (icmpAccept i b) (packetRelease cfg b))
      (fun _ => Owned cfg (b :: held)) (fun _ => Loose cfg b held) :=
    Triple.onError accept fun _ => packetRelease_done.weaken (fun _ h => h) (fun _ _ h => .inl h) fun _ _ h => .inl h
  have reply : Triple (Owned cfg (b :: held)) (icmpReply i b) (fun _ => Owned cfg (b :: held))
      (fun _ => Loose cfg b held) := by
    refine .bind (R := fun _ => Owned cfg (b :: held)) (.read fun _ h => h) fun interface => ?_
    refine .bind writeData_owned fun _ => .bind writeData_owned fun _ => ?_
    exact .ite (fun _ => updatePacket_owned fun _ => rfl) fun _ => updatePacket_owned fun _ => rfl
  exact .bind accepted fun _ => .bind reply fun _ => ipv4Tx_loose env

theorem reject_loose {c : Prop} [Decidable c] {e : Error} : Triple (Owned cfg (b :: held)) (reject c e : StackM Unit)
    (fun _ => Owned cfg (b :: held)) (fun _ => Loose cfg b held) :=
  .reject (fun _ h _ => .inr h) fun _ h _ => h

theorem arpRx_loose : Triple (Owned cfg (b :: held)) (arpRx cfg env i b) (fun _ => Owned cfg held)
    (fun _ => Loose cfg b held) := by
  refine .bind (R := fun _ => Owned cfg (b :: held)) (.read fun _ h => h) fun p => .bind reject_loose
    fun _ => .bind reject_loose fun _ => ?_
  refine .bind (R := fun _ => Owned cfg (b :: held)) (.read fun _ h => h) fun interface => ?_
  refine .bind (R := fun _ => Owned cfg (b :: held)) ?_
    fun _ => .bind (R := fun _ => Owned cfg (b :: held)) ?_ fun _ => ?_
  · exact .onlyIf (fun _ => arpCacheUpdate_owned env) fun _ h _ => h
  · exact .onlyIf (fun _ => (arpSend_keeps env).ignore) fun _ h _ => h
  · exact packetRelease_done.ignore (fun _ _ h => h.1) fun _ _ h => h.1

theorem ipv4Rx_loose : Triple (Owned cfg (b :: held)) (ipv4Rx cfg env i b) (fun _ => Owned cfg held)
    (fun _ => Loose cfg b held) := by
  have kept : ∀ {m : StackM Unit}, Keeps (Owned cfg (b :: held)) m → Triple (Owned cfg (b :: held)) m
      (fun _ => Owned cfg (b :: held)) (fun _ => Loose cfg b held) :=
    fun h => h.weaken (fun _ h => h) (fun _ _ h => h) fun _ _ h => .inr h
  refine .bind (R := fun _ => Owned cfg (b :: held)) (.read fun _ h => h) fun n => ?_
  refine .bind reject_loose fun _ => .bind reject_loose fun _ => .bind reject_loose fun _ => .bind reject_loose
    fun _ => .bind reject_loose fun _ => ?_
  refine .bind reject_loose fun _ => .bind reject_loose fun _ => .bind reject_loose fun _ => .bind reject_loose
    fun _ => ?_
  refine .bind (kept packetPull_keeps) fun _ => .bind (kept (.onlyIf packetSetLength_keeps)) fun _ => ?_
  refine .ite (fun _ => icmpRx_loose env) fun _ => .ite (fun _ => ?_) fun _ => .fail fun _ h => .inr h
  exact (udpRx_owned env).weaken (fun _ h => h) (fun _ _ h => h) fun _ _ h => .inl h

theorem interfaceRxFrame_keeps {frame : List UInt8} {rxFlags : Nat} :
    Keeps (Owned cfg held) (interfaceRxFrame cfg env i frame rxFlags) := by
  refine .bind .reject fun _ => .bind .reject fun _ => Triple.bind packetAlloc_spec fun b => ?_
  have reject : ∀ {c : Prop} [Decidable c] {e : Error}, Triple (Owned cfg (b :: held)) (reject c e : StackM Unit)
      (fun _ => Owned cfg (b :: held)) (fun _ => Loose cfg b held) :=
    fun {_ _ _} => .reject (fun _ h _ => .inr h) fun _ h _ => h
  have route : Triple (Owned cfg (b :: held)) (ethernetRx cfg env i b) (fun _ => Owned cfg held)
      (fun _ => Loose cfg b held) := by
    refine .bind (R := fun _ => Owned cfg (b :: held)) (.read fun _ h => h) fun n => .bind reject
      fun _ => .bind reject fun _ => ?_
    refine .bind (packetPull_keeps.weaken (fun _ h => h) (fun _ _ h => h) fun _ _ h => .inr h) fun _ => ?_
    exact .ite (fun _ => arpRx_loose env) fun _ => .ite (fun _ => ipv4Rx_loose env) fun _ => .fail fun _ h => .inr h
  refine .bind (R := fun _ => Owned cfg (b :: held)) (.read fun _ h => h) fun capacity => ?_
  refine .onError ?_ fun _ => packetRelease_loose
  refine .bind reject fun _ => .bind writeData_owned fun _ => .bind (updatePacket_owned fun _ => rfl) fun _ => route

/- The calls that drive the stack. -/

theorem flushEntry_keeps (lt : j < cfg.arpCacheSize) : Keeps (Owned cfg held) (flushEntry cfg i j) := by
  refine Triple.bind (R := fun _ => Sendable cfg held i j) ?_ fun _ =>
    sendable_leaves fun _ _ initialized lt used => packetRelease_gives initialized lt used
  rw [updateEntry_eq]
  exact .modify fun s owned => owned.sendable lt rfl

theorem ipv4ConfigStatic_keeps {ipAddr netmask gateway : Addr} :
    Keeps (Owned cfg held) (ipv4ConfigStatic cfg i ipAddr netmask gateway) := by
  refine .bind .reject fun _ => .bind (updateInterface_owned fun _ => rfl) fun _ => ?_
  exact forIndices_keeps fun _ lt => flushEntry_keeps lt

theorem interfaceAdd_keeps {config : InterfaceConfig} : Keeps (Owned cfg held) (interfaceAdd cfg config) := by
  refine .bind .read fun n => .bind .reject fun _ => .bind .reject fun _ => ?_
  refine .bind (updateInterface_owned fun _ => rfl) fun _ => .bind arpCacheInit_owned fun _ => ?_
  exact owned_of_same fun _ => ⟨rfl, rfl, fun _ => rfl, fun _ _ => rfl, fun _ _ _ _ h => h⟩

theorem retransmitEntry_keeps : Keeps (Owned cfg held) (retransmitEntry cfg env i j) := by
  refine .bind .read fun entry => .ite (fun _ => .bind ?_ fun _ => (arpSend_keeps env).ignore) fun _ => .pure
  rw [updateEntry_eq]
  exact .modify fun s owned => owned.setEntry rfl fun b parked => owned.parked_pending i j b parked

theorem deliver_keeps (frames : List (List UInt8 × Nat)) : Keeps (Owned cfg held) (deliver cfg env i frames) := by
  induction frames with
  | nil => exact .pure
  | cons frame rest ih => exact .bind (interfaceRxFrame_keeps env).ignore fun _ => ih

theorem process_keeps {polls : Nat → Poll} : Keeps (Owned cfg held) (process cfg env polls) := by
  refine .bind .read fun n => .bind .reject fun _ => forIndices_keeps fun i _ => ?_
  exact .bind (deliver_keeps env _) fun _ => .bind .finish fun _ => forIndices_keeps
    fun _ _ => retransmitEntry_keeps env

theorem tick_keeps : Keeps (Owned cfg held) (tick cfg env elapsedMs) := by
  refine .bind .read fun n => .bind .reject fun _ => .bind ?_ fun _ => forIndices_keeps fun i _ => ?_
  · exact owned_of_same fun _ => ⟨rfl, rfl, fun _ => rfl, fun _ _ => rfl, fun _ _ _ _ h => h⟩
  · exact .bind arpTick_keeps fun _ => dhcpTick_keeps env

end XSDK.Net
