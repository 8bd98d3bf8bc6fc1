import XSDK.Net.Rx

/-! Who owns a pool buffer. A buffer in use is held by the call in progress, parked in one
ARP entry that waits for a reply, or was parked when a reset of the cache overwrote it. -/
namespace XSDK.Net

open Library Prog
open List (mem_cons mem_cons_of_mem mem_cons_self mem_range nodup_cons)

variable (cfg : Config) (env : Env)

def Stack.inUse (net : Stack) (b : Nat) : Bool := (net.packetPool b).isInUse

def Parked (net : Stack) (i j b : Nat) : Prop := j < cfg.arpCacheSize ∧ (net.entry i j).pendingPacket = some b

structure Owned (held : List Nat) (net : Stack) : Prop where
  initialized : net.isInitialized = true
  held_nodup : held.Nodup
  held_lt : ∀ b ∈ held, b < cfg.packetPoolSize
  parked_lt : ∀ i j b, Parked cfg net i j b → b < cfg.packetPoolSize
  parked_unique : ∀ i j i' j' b, Parked cfg net i j b → Parked cfg net i' j' b → i = i' ∧ j = j'
  parked_pending : ∀ i j b, Parked cfg net i j b → (net.entry i j).state = .pending
  parked_not_held : ∀ i j b, Parked cfg net i j b → b ∉ held
  overwritten_lt : ∀ b ∈ net.overwritten, b < cfg.packetPoolSize
  overwritten_not_held : ∀ b ∈ net.overwritten, b ∉ held
  overwritten_not_parked : ∀ b ∈ net.overwritten, ∀ i j, ¬Parked cfg net i j b
  inUse : ∀ b < cfg.packetPoolSize,
    net.inUse b = true ↔ b ∈ held ∨ (∃ i j, Parked cfg net i j b) ∨ b ∈ net.overwritten

structure SameOwners (net net' : Stack) : Prop where
  initialized : net'.isInitialized = net.isInitialized
  overwritten : net'.overwritten = net.overwritten
  inUse : ∀ b, net'.inUse b = net.inUse b
  pendingPacket : ∀ i j, (net'.entry i j).pendingPacket = (net.entry i j).pendingPacket
  pending : ∀ i j b, Parked cfg net i j b → (net.entry i j).state = .pending → (net'.entry i j).state = .pending

variable {cfg} {held : List Nat} {net net' : Stack} {i j b : Nat}

theorem SameOwners.parked (same : SameOwners cfg net net') (i j b : Nat) :
    Parked cfg net' i j b ↔ Parked cfg net i j b := by
  rw [Parked, Parked, same.pendingPacket]

theorem Owned.congr (owned : Owned cfg held net) (same : SameOwners cfg net net') : Owned cfg held net' where
  initialized := same.initialized.trans owned.initialized
  held_nodup := owned.held_nodup
  held_lt := owned.held_lt
  parked_lt := fun i j b h => owned.parked_lt i j b ((same.parked i j b).mp h)
  parked_unique := fun i j i' j' b h h' =>
    owned.parked_unique i j i' j' b ((same.parked i j b).mp h) ((same.parked i' j' b).mp h')
  parked_pending := by
    intro i j b h
    have before := (same.parked i j b).mp h
    exact same.pending i j b before (owned.parked_pending i j b before)
  parked_not_held := fun i j b h => owned.parked_not_held i j b ((same.parked i j b).mp h)
  overwritten_lt := same.overwritten ▸ owned.overwritten_lt
  overwritten_not_held := same.overwritten ▸ owned.overwritten_not_held
  overwritten_not_parked := by
    intro b mem i j h
    rw [same.overwritten] at mem
    exact owned.overwritten_not_parked b mem i j ((same.parked i j b).mp h)
  inUse := by
    intro b lt
    rw [same.inUse, owned.inUse b lt, same.overwritten]
    simp only [same.parked]

variable {E : Error → Stack → Prop}

theorem owned_of_same {f : Stack → Stack} (h : ∀ net, SameOwners cfg net (f net)) :
    Triple (Owned cfg held) (modify f : StackM Unit) (fun _ => Owned cfg held) E :=
  .modify fun net owned => owned.congr (h net)

variable {entry : ArpEntry} {f : PacketBuffer → PacketBuffer} {ethertype : Nat} {size : Nat} {dest : Mac}

theorem updatePacket_owned
    (h : ∀ p, (f p).isInUse = p.isInUse) :
    Triple (Owned cfg held) (updatePacket b f) (fun _ => Owned cfg held) E := by
  apply owned_of_same
  intro net
  refine ⟨rfl, rfl, fun c => ?_, fun _ _ => rfl, fun _ _ _ _ h => h⟩
  by_cases hc : c = b
  · subst hc
    simp [Stack.inUse, Stack.setPacket, h]
  · simp [Stack.inUse, Stack.setPacket, Function.update_of_ne hc]

@[simp] theorem setInterface_interfaces (net : Stack) (i : Nat) (interface : Interface) :
    (net.setInterface i interface).interfaces = Function.update net.interfaces i interface := rfl

theorem updateInterface_owned {f : Interface → Interface} (h : ∀ x, (f x).arpCache = x.arpCache) :
    Triple (Owned cfg held) (updateInterface i f) (fun _ => Owned cfg held) E := by
  apply owned_of_same
  intro net
  have entries : ∀ k j, (net.setInterface i (f (net.interfaces i))).entry k j = net.entry k j := by
    intro k j
    by_cases hk : k = i
    · subst hk
      simp [Stack.entry, h]
    · simp [Stack.entry, Function.update_of_ne hk]
  exact ⟨rfl, rfl, fun _ => rfl, fun k j => by rw [entries], fun k j _ _ h => by rw [entries]; exact h⟩

theorem updateDhcp_owned {f : DhcpContext → DhcpContext} :
    Triple (Owned cfg held) (updateDhcp i f) (fun _ => Owned cfg held) E :=
  updateInterface_owned fun _ => rfl

theorem updateSocket_owned {s : SocketId} {f : UdpContext → UdpContext} :
    Triple (Owned cfg held) (updateSocket s f) (fun _ => Owned cfg held) E :=
  owned_of_same fun _ => ⟨rfl, rfl, fun _ => rfl, fun _ _ => rfl, fun _ _ _ _ h => h⟩

theorem writeData_owned {k : Nat} {bytes : List UInt8} :
    Triple (Owned cfg held) (writeData b k bytes) (fun _ => Owned cfg held) E :=
  updatePacket_owned fun _ => rfl

theorem packetPush_keeps : Keeps (Owned cfg held) (packetPush b size) :=
  .bind .read fun _ => .bind .reject fun _ => updatePacket_owned fun _ => rfl

theorem packetPull_keeps : Keeps (Owned cfg held) (packetPull b size) :=
  .bind .read fun _ => .bind .reject fun _ => updatePacket_owned fun _ => rfl

theorem packetSetLength_keeps {length : Nat} : Keeps (Owned cfg held) (packetSetLength b length) :=
  .bind .read fun _ => .bind .reject fun _ => updatePacket_owned fun _ => rfl

/- Taking a buffer from the pool and giving it back. -/

theorem inUse_setPacket (net : Stack) (b c : Nat) (p : PacketBuffer) :
    (net.setPacket b p).inUse c = if c = b then p.isInUse else net.inUse c := by
  by_cases hc : c = b
  · subst hc
    simp [Stack.inUse, Stack.setPacket]
  · simp [Stack.inUse, Stack.setPacket, hc]

theorem Owned.take (owned : Owned cfg held net) (lt : b < cfg.packetPoolSize) (free : net.inUse b = false)
    {p : PacketBuffer} (used : p.isInUse = true) : Owned cfg (b :: held) (net.setPacket b p) := by
  have unowned : ¬(b ∈ held ∨ (∃ i j, Parked cfg net i j b) ∨ b ∈ net.overwritten) := by
    rw [← owned.inUse b lt, free]
    exact Bool.false_ne_true
  have notHeld : b ∉ held := fun h => unowned (.inl h)
  refine
    { owned with
      held_nodup := nodup_cons.mpr ⟨notHeld, owned.held_nodup⟩
      held_lt := ?_, parked_not_held := ?_, overwritten_not_held := ?_, inUse := ?_ }
  · intro c hc
    rcases mem_cons.mp hc with rfl | hc
    · exact lt
    · exact owned.held_lt c hc
  · intro i j c h hc
    rcases mem_cons.mp hc with rfl | hc
    · exact unowned (.inr (.inl ⟨i, j, h⟩))
    · exact owned.parked_not_held i j c h hc
  · intro c mem hc
    rcases mem_cons.mp hc with rfl | hc
    · exact unowned (.inr (.inr mem))
    · exact owned.overwritten_not_held c mem hc
  · intro c hc
    rw [inUse_setPacket, mem_cons]
    by_cases eq : c = b
    · simp [eq, used]
    · rw [if_neg eq, owned.inUse c hc]
      simp only [eq, false_or]
      exact Iff.rfl

structure Released (b : Nat) (net net' : Stack) : Prop where
  initialized : net'.isInitialized = net.isInitialized
  overwritten : net'.overwritten = net.overwritten
  interfaces : net'.interfaces = net.interfaces
  inUse : ∀ c, net'.inUse c = if c = b then false else net.inUse c

def Done (cfg : Config) (b : Nat) (held : List Nat) (net : Stack) : Prop := Owned cfg held net ∧ net.inUse b = false

theorem Owned.release (owned : Owned cfg (b :: held) net) (released : Released b net net') : Done cfg b held net' := by
  have nodup := nodup_cons.mp owned.held_nodup
  have sameParked : ∀ i j c, Parked cfg net' i j c ↔ Parked cfg net i j c := by
    intro i j c
    rw [Parked, Parked, Stack.entry, Stack.entry, released.interfaces]
  refine ⟨?_, by rw [released.inUse, if_pos rfl]⟩
  exact
    { initialized := released.initialized.trans owned.initialized
      held_nodup := nodup.2
      held_lt := fun c hc => owned.held_lt c (mem_cons_of_mem _ hc)
      parked_lt := fun i j c h => owned.parked_lt i j c ((sameParked i j c).mp h)
      parked_unique := fun i j i' j' c h h' =>
        owned.parked_unique i j i' j' c ((sameParked i j c).mp h) ((sameParked i' j' c).mp h')
      parked_pending := by
        intro i j c h
        rw [Stack.entry, released.interfaces]
        exact owned.parked_pending i j c ((sameParked i j c).mp h)
      parked_not_held := fun i j c h hc =>
        owned.parked_not_held i j c ((sameParked i j c).mp h) (mem_cons_of_mem _ hc)
      overwritten_lt := released.overwritten ▸ owned.overwritten_lt
      overwritten_not_held := by
        intro c mem hc
        rw [released.overwritten] at mem
        exact owned.overwritten_not_held c mem (mem_cons_of_mem _ hc)
      overwritten_not_parked := by
        intro c mem i j h
        rw [released.overwritten] at mem
        exact owned.overwritten_not_parked c mem i j ((sameParked i j c).mp h)
      inUse := by
        intro c hc
        rw [released.inUse, released.overwritten]
        simp only [sameParked]
        by_cases eq : c = b
        · subst eq
          have notParked : ¬∃ i j, Parked cfg net i j c := fun ⟨i, j, h⟩ =>
            owned.parked_not_held i j c h mem_cons_self
          have notOverwritten : c ∉ net.overwritten := fun h =>
            owned.overwritten_not_held c h mem_cons_self
          simp [nodup.1, notParked, notOverwritten]
        · rw [if_neg eq, owned.inUse c hc, mem_cons]
          simp only [eq, false_or] }

theorem packetAlloc_spec :
    Triple (Owned cfg held) (packetAlloc cfg) (fun b => Owned cfg (b :: held)) (fun _ => Owned cfg held) := by
  apply Triple.forState
  intro net owned
  refine .bind (R := fun n s => n = net ∧ s = net) (.read fun s hs => ⟨hs, hs⟩) fun n => ?_
  refine .assuming fun hn => ?_
  subst hn
  refine .bind (R := fun _ s => s = n) (.reject (fun s hs _ => hs ▸ owned) fun s hs _ => hs) fun _ => ?_
  split
  · exact .fail fun s hs => hs ▸ owned
  · next b found =>
    refine .bind (R := fun _ => Owned cfg (b :: held)) (.modify fun s hs => ?_) fun _ => .pure fun _ hs => hs
    subst hs
    have lt : b < cfg.packetPoolSize := mem_range.mp (List.mem_of_find?_eq_some found)
    have free : s.inUse b = false := by
      have test := List.find?_some found
      simpa [Stack.inUse] using test
    exact owned.take lt free rfl

theorem packetRelease_run (initialized : net.isInitialized = true) (lt : b < cfg.packetPoolSize)
    (used : net.inUse b = true) :
    packetRelease cfg b net = some (.ok (), net.setPacket b { net.packetPool b with isInUse := false }) := by
  have initialized : ¬(id net).isInitialized = false := by simp [initialized]
  have used : ¬((id net).packetPool b).isInUse = false := by simpa [Stack.inUse] using used
  rw [packetRelease, bind_ok _ (read_run _), reject_bind_neg _ initialized, reject_bind_neg _ (not_not.mpr lt),
    reject_bind_neg _ used]
  rfl

theorem packetRelease_released (owned : Owned cfg (b :: held) net) :
    packetRelease cfg b net = some (.ok (), net.setPacket b { net.packetPool b with isInUse := false }) ∧
      Released b net (net.setPacket b { net.packetPool b with isInUse := false }) := by
  have lt := owned.held_lt b mem_cons_self
  have used : net.inUse b = true := (owned.inUse b lt).mpr (.inl mem_cons_self)
  exact ⟨packetRelease_run owned.initialized lt used, rfl, rfl, rfl, fun c => inUse_setPacket net b c _⟩

theorem packetRelease_spec : Triple (Owned cfg (b :: held)) (packetRelease cfg b) (fun _ => Done cfg b held) E := by
  intro net owned r net' run
  obtain ⟨ran, released⟩ := packetRelease_released owned
  rw [ran] at run
  cases run
  exact owned.release released

theorem packetRelease_idle (free : net.inUse b = false) {r : Except Error Unit}
    (run : packetRelease cfg b net = some (r, net')) : net' = net := by
  have free : ((id net).packetPool b).isInUse = false := free
  rw [packetRelease, bind_ok _ (read_run _)] at run
  by_cases initialized : (id net).isInitialized = false
  · rw [reject_bind_pos _ initialized] at run
    cases run
    rfl
  · rw [reject_bind_neg _ initialized] at run
    by_cases lt : b < cfg.packetPoolSize
    · rw [reject_bind_neg _ (not_not.mpr lt), reject_bind_pos _ free] at run
      cases run
      rfl
    · rw [reject_bind_pos _ lt] at run
      cases run
      rfl

/- The Ethernet layer on its way out takes the packet and leaves the interfaces alone. -/

structure Quiet (net net' : Stack) : Prop where
  initialized : net'.isInitialized = net.isInitialized
  overwritten : net'.overwritten = net.overwritten
  interfaces : net'.interfaces = net.interfaces
  inUse : ∀ c, net'.inUse c = net.inUse c

theorem Quiet.refl (net : Stack) : Quiet net net := ⟨rfl, rfl, rfl, fun _ => rfl⟩

theorem updatePacket_quiet (h : ∀ p, (f p).isInUse = p.isInUse) : Keeps (Quiet net) (updatePacket b f) := by
  refine .modify fun s quiet => ⟨quiet.initialized, quiet.overwritten, quiet.interfaces, fun c => ?_⟩
  rw [inUse_setPacket, h, ← quiet.inUse]
  split
  · next eq => rw [eq]; rfl
  · rfl

theorem ethernetFrame_quiet (net : Stack) (i b : Nat) (dest : Mac) (ethertype : Nat) :
    Keeps (Quiet net) (do
      let interface ← read fun net => net.interfaces i
      reject (interface.isUp = false) .linkDown
      ethernetPad b
      packetPush b ethernetHeaderSize
      ethernetBuild i b dest ethertype) := by
  have pad : Keeps (Quiet net) (ethernetPad b) := by
    refine .bind .read fun p => .ite (fun _ => ?_) fun _ => .pure
    refine .bind .reject fun _ => .bind (updatePacket_quiet fun _ => rfl) fun _ => ?_
    exact .bind .read fun _ => .bind .reject fun _ => updatePacket_quiet fun _ => rfl
  have push : Keeps (Quiet net) (packetPush b ethernetHeaderSize) :=
    .bind .read fun _ => .bind .reject fun _ => updatePacket_quiet fun _ => rfl
  have build : Keeps (Quiet net) (ethernetBuild i b dest ethertype) :=
    .bind .read fun _ => .bind .reject fun _ => updatePacket_quiet fun _ => rfl
  exact .bind .read fun _ => .bind .reject fun _ => .bind pad fun _ => .bind push fun _ => build

theorem ethernetTx_released (initialized : net.isInitialized = true)
    (lt : b < cfg.packetPoolSize) (used : net.inUse b = true) :
    Triple (· = net) (ethernetTx cfg env i b dest ethertype) (fun _ => Released b net) (fun _ => Released b net) := by
  have release : Triple (Quiet net) (packetRelease cfg b) (fun _ => Released b net) (fun _ => Released b net) := by
    intro s quiet r s' run
    rw [packetRelease_run (quiet.initialized.trans initialized) lt ((quiet.inUse b).trans used)] at run
    cases run
    refine ⟨quiet.initialized, quiet.overwritten, quiet.interfaces, fun c => ?_⟩
    rw [inUse_setPacket, quiet.inUse]
  have frame : Triple (· = net) _ (fun _ => Quiet net) (fun _ => Released b net) :=
    (Triple.onError (ethernetFrame_quiet net i b dest ethertype) fun _ => release).weaken
      (fun s hs => hs ▸ Quiet.refl net) (fun _ _ h => h) fun _ _ h => h
  refine .bind frame fun _ => .bind (R := fun _ => Quiet net) ?_ fun result => ?_
  · refine .bind (R := fun _ => Quiet net) (.read fun _ h => h) fun n => ?_
    refine .bind (R := fun _ => Quiet net) (.modify fun s quiet => ?_) fun _ => .pure fun _ h => h
    exact ⟨quiet.initialized, quiet.overwritten, quiet.interfaces, quiet.inUse⟩
  · refine .bind (R := fun _ => Released b net) ?_ fun _ => ?_
    · exact release.ignore (fun _ _ h => h) fun _ _ h => h
    · exact .finish (fun _ _ h _ => h) fun _ _ h _ => h

/- Changing one ARP entry. -/

def Stack.setEntry (net : Stack) (i j : Nat) (entry : ArpEntry) : Stack :=
  net.setInterface i
    { net.interfaces i with arpCache := Function.update (net.interfaces i).arpCache j entry }

theorem updateEntry_eq (f : ArpEntry → ArpEntry) :
    updateEntry i j f = Prog.modify fun net => net.setEntry i j (f (net.entry i j)) := rfl

theorem entry_setEntry (net : Stack) (i j i' j' : Nat) (entry : ArpEntry) :
    (net.setEntry i j entry).entry i' j' = if i' = i ∧ j' = j then entry else net.entry i' j' := by
  by_cases hi : i' = i
  · subst hi
    by_cases hj : j' = j
    · subst hj
      simp [Stack.setEntry, Stack.entry]
    · simp [Stack.setEntry, Stack.entry, hj]
  · simp [Stack.setEntry, Stack.entry, hi]

theorem parked_setEntry (net : Stack) (i j i' j' b : Nat) (entry : ArpEntry) :
    Parked cfg (net.setEntry i j entry) i' j' b ↔
      if i' = i ∧ j' = j then j < cfg.arpCacheSize ∧ entry.pendingPacket = some b else Parked cfg net i' j' b := by
  rw [Parked, entry_setEntry]
  split
  · next eq => rw [eq.2]
  · rfl

theorem Owned.setEntry (owned : Owned cfg held net) (pointer : entry.pendingPacket = (net.entry i j).pendingPacket)
    (state : ∀ b, Parked cfg net i j b → entry.state = .pending) : Owned cfg held (net.setEntry i j entry) := by
  refine owned.congr ⟨rfl, rfl, fun _ => rfl, fun i' j' => ?_, fun i' j' b parked pending => ?_⟩
  · rw [entry_setEntry]
    split
    · next eq => rw [pointer, eq.1, eq.2]
    · rfl
  · rw [entry_setEntry]
    split
    · next eq =>
      obtain ⟨rfl, rfl⟩ := eq
      exact state b parked
    · exact pending

theorem Owned.unpark (owned : Owned cfg held net) (parked : Parked cfg net i j b)
    (cleared : entry.pendingPacket = none) : Owned cfg (b :: held) (net.setEntry i j entry) := by
  have earlier : ∀ i' j' c, Parked cfg (net.setEntry i j entry) i' j' c → Parked cfg net i' j' c ∧ c ≠ b := by
    intro i' j' c h
    rw [parked_setEntry] at h
    split at h
    · rw [cleared] at h
      cases h.2
    · next other =>
      refine ⟨h, ?_⟩
      rintro rfl
      exact other (owned.parked_unique i' j' i j c h parked)
  have later : ∀ c, c ≠ b → (∃ i' j', Parked cfg net i' j' c) →
      ∃ i' j', Parked cfg (net.setEntry i j entry) i' j' c := by
    rintro c ne ⟨i', j', h⟩
    refine ⟨i', j', ?_⟩
    rw [parked_setEntry, if_neg]
    · exact h
    · rintro ⟨rfl, rfl⟩
      exact ne (Option.some.inj (h.2.symm.trans parked.2))
  have notHeld := owned.parked_not_held i j b parked
  refine
    { owned with
      held_nodup := nodup_cons.mpr ⟨notHeld, owned.held_nodup⟩
      held_lt := ?_
      parked_lt := fun i' j' c h => owned.parked_lt i' j' c (earlier i' j' c h).1
      parked_unique := fun i₁ j₁ i₂ j₂ c h h' =>
        owned.parked_unique i₁ j₁ i₂ j₂ c (earlier i₁ j₁ c h).1 (earlier i₂ j₂ c h').1
      parked_pending := ?_
      parked_not_held := ?_
      overwritten_not_held := ?_
      overwritten_not_parked := fun c mem i' j' h => owned.overwritten_not_parked c mem i' j' (earlier i' j' c h).1
      inUse := ?_ }
  · intro c hc
    rcases mem_cons.mp hc with rfl | hc
    · exact owned.parked_lt i j c parked
    · exact owned.held_lt c hc
  · intro i' j' c h
    have before := earlier i' j' c h
    rw [entry_setEntry, if_neg]
    · exact owned.parked_pending i' j' c before.1
    · rintro ⟨rfl, rfl⟩
      exact before.2 (Option.some.inj (before.1.2.symm.trans parked.2))
  · intro i' j' c h hc
    rcases mem_cons.mp hc with rfl | hc
    · exact (earlier i' j' c h).2 rfl
    · exact owned.parked_not_held i' j' c (earlier i' j' c h).1 hc
  · intro c mem hc
    rcases mem_cons.mp hc with rfl | hc
    · exact owned.overwritten_not_parked c mem i j parked
    · exact owned.overwritten_not_held c mem hc
  · intro c hc
    have before := owned.inUse c hc
    change net.inUse c = true ↔ _ at before
    change net.inUse c = true ↔ _
    rw [before, mem_cons]
    by_cases eq : c = b
    · subst eq
      exact ⟨fun _ => .inl (.inl rfl), fun _ => .inr (.inl ⟨i, j, parked⟩)⟩
    · constructor
      · rintro (h | h | h)
        · exact .inl (.inr h)
        · exact .inr (.inl (later c eq h))
        · exact .inr (.inr h)
      · rintro ((h | h) | ⟨i', j', h⟩ | h)
        · exact absurd h eq
        · exact .inl h
        · exact .inr (.inl ⟨i', j', (earlier i' j' c h).1⟩)
        · exact .inr (.inr h)

theorem Owned.park (owned : Owned cfg (b :: held) net) (lt : j < cfg.arpCacheSize)
    (empty : (net.entry i j).pendingPacket = none) (pointer : entry.pendingPacket = some b)
    (state : entry.state = .pending) : Owned cfg held (net.setEntry i j entry) := by
  have nodup := nodup_cons.mp owned.held_nodup
  have cases : ∀ i' j' c, Parked cfg (net.setEntry i j entry) i' j' c →
      (i' = i ∧ j' = j ∧ c = b) ∨ (Parked cfg net i' j' c ∧ c ≠ b) := by
    intro i' j' c h
    rw [parked_setEntry] at h
    split at h
    · next eq => exact .inl ⟨eq.1, eq.2, Option.some.inj (h.2.symm.trans pointer)⟩
    · refine .inr ⟨h, ?_⟩
      rintro rfl
      exact owned.parked_not_held i' j' c h mem_cons_self
  have kept : ∀ i' j' c, Parked cfg net i' j' c → Parked cfg (net.setEntry i j entry) i' j' c := by
    intro i' j' c h
    rw [parked_setEntry, if_neg]
    · exact h
    · rintro ⟨rfl, rfl⟩
      have := h.2
      rw [empty] at this
      cases this
  refine
    { owned with
      held_nodup := nodup.2
      held_lt := fun c hc => owned.held_lt c (mem_cons_of_mem _ hc)
      parked_lt := ?_
      parked_unique := ?_
      parked_pending := ?_
      parked_not_held := ?_
      overwritten_not_held := fun c mem hc => owned.overwritten_not_held c mem (mem_cons_of_mem _ hc)
      overwritten_not_parked := ?_
      inUse := ?_ }
  · intro i' j' c h
    rcases cases i' j' c h with ⟨-, -, rfl⟩ | ⟨h, -⟩
    · exact owned.held_lt c mem_cons_self
    · exact owned.parked_lt i' j' c h
  · intro i₁ j₁ i₂ j₂ c h h'
    rcases cases i₁ j₁ c h with ⟨rfl, rfl, rfl⟩ | ⟨h, ne⟩
    · rcases cases i₂ j₂ c h' with ⟨rfl, rfl, -⟩ | ⟨-, ne⟩
      · exact ⟨rfl, rfl⟩
      · exact absurd rfl ne
    · rcases cases i₂ j₂ c h' with ⟨-, -, eq⟩ | ⟨h', -⟩
      · exact absurd eq ne
      · exact owned.parked_unique i₁ j₁ i₂ j₂ c h h'
  · intro i' j' c h
    rw [entry_setEntry]
    split
    · exact state
    · next other =>
      rcases cases i' j' c h with ⟨hi, hj, -⟩ | ⟨h, -⟩
      · exact absurd ⟨hi, hj⟩ other
      · exact owned.parked_pending i' j' c h
  · intro i' j' c h hc
    rcases cases i' j' c h with ⟨-, -, rfl⟩ | ⟨h, -⟩
    · exact nodup.1 hc
    · exact owned.parked_not_held i' j' c h (mem_cons_of_mem _ hc)
  · intro c mem i' j' h
    rcases cases i' j' c h with ⟨-, -, rfl⟩ | ⟨h, -⟩
    · exact owned.overwritten_not_held c mem mem_cons_self
    · exact owned.overwritten_not_parked c mem i' j' h
  · intro c hc
    have before := owned.inUse c hc
    change net.inUse c = true ↔ _ at before
    change net.inUse c = true ↔ _
    rw [before, mem_cons]
    constructor
    · rintro ((rfl | h) | ⟨i', j', h⟩ | h)
      · refine .inr (.inl ⟨i, j, ?_⟩)
        rw [parked_setEntry, if_pos ⟨rfl, rfl⟩]
        exact ⟨lt, pointer⟩
      · exact .inl h
      · exact .inr (.inl ⟨i', j', kept i' j' c h⟩)
      · exact .inr (.inr h)
    · rintro (h | ⟨i', j', h⟩ | h)
      · exact .inl (.inr h)
      · rcases cases i' j' c h with ⟨-, -, rfl⟩ | ⟨h, -⟩
        · exact .inl (.inl rfl)
        · exact .inr (.inl ⟨i', j', h⟩)
      · exact .inr (.inr h)

theorem Released.setEntry (released : Released b net net') (entry : ArpEntry) :
    Released b (net.setEntry i j entry) (net'.setEntry i j entry) := by
  refine ⟨released.initialized, released.overwritten, ?_, released.inUse⟩
  change Function.update net'.interfaces i _ = Function.update net.interfaces i _
  rw [released.interfaces]

theorem ethernetTx_done :
    Triple (Owned cfg (b :: held)) (ethernetTx cfg env i b dest ethertype) (fun _ => Done cfg b held)
      (fun _ => Done cfg b held) := by
  apply Triple.forState
  intro net owned
  have lt := owned.held_lt b mem_cons_self
  have used : net.inUse b = true := (owned.inUse b lt).mpr (.inl mem_cons_self)
  exact (ethernetTx_released env owned.initialized lt used).weaken (fun _ h => h)
    (fun _ _ released => owned.release released) fun _ _ released => owned.release released

/- The ARP cache. -/

theorem clear_parked {m : StackM Unit}
    (released : Triple (· = net) m (fun _ => Released b net) (fun _ => Released b net))
    (owned : Owned cfg (b :: held) (net.setEntry i j { net.entry i j with pendingPacket := none })) :
    Triple (· = net) (ignore m >>= fun _ => updateEntry i j fun entry => { entry with pendingPacket := none })
      (fun _ s => Owned cfg held s ∧ s.entry i j = { net.entry i j with pendingPacket := none }) E := by
  refine .bind (R := fun _ => Released b net) (released.ignore (fun _ _ h => h) fun _ _ h => h) fun _ => ?_
  rw [updateEntry_eq]
  refine .modify fun s rel => ?_
  have same : s.entry i j = net.entry i j := by rw [Stack.entry, rel.interfaces]; rfl
  rw [same]
  refine ⟨(owned.release (rel.setEntry _)).1, ?_⟩
  rw [entry_setEntry, if_pos ⟨rfl, rfl⟩]

theorem packetRelease_gives (initialized : net.isInitialized = true) (lt : b < cfg.packetPoolSize)
    (used : net.inUse b = true) :
    Triple (· = net) (packetRelease cfg b) (fun _ => Released b net) (fun _ => Released b net) := by
  intro s hs r s' run
  subst hs
  rw [packetRelease_run initialized lt used] at run
  cases run
  exact ⟨rfl, rfl, rfl, fun c => inUse_setPacket s b c _⟩

theorem releaseParked_spec (lt : j < cfg.arpCacheSize) (owned : Owned cfg held net) :
    Triple (· = net) (releaseParked cfg i j)
      (fun _ s => Owned cfg held s ∧ s.entry i j = { net.entry i j with pendingPacket := none }) E := by
  refine .bind (R := fun e s => e = net.entry i j ∧ s = net) (.read fun s hs => ?_) fun e => .assuming fun he => ?_
  · exact ⟨hs ▸ rfl, hs⟩
  · subst he
    cases pointer : (net.entry i j).pendingPacket with
    | none =>
      refine .pure fun s hs => ?_
      rw [hs]
      exact ⟨owned, by rw [← pointer]⟩
    | some b =>
      have parked : Parked cfg net i j b := ⟨lt, pointer⟩
      have inside := owned.parked_lt i j b parked
      have used : net.inUse b = true := (owned.inUse b inside).mpr (.inr (.inl ⟨i, j, parked⟩))
      exact clear_parked (packetRelease_gives owned.initialized inside used) (owned.unpark parked rfl)

theorem arpEvict_spec (lt : j < cfg.arpCacheSize) :
    Triple (Owned cfg held) (arpEvict cfg i j)
      (fun _ s => Owned cfg held s ∧ (s.entry i j).pendingPacket = none) E := by
  apply Triple.forState
  intro net owned
  refine .bind (releaseParked_spec lt owned) fun _ => ?_
  rw [updateEntry_eq]
  refine .modify fun s hs => ?_
  have empty : (s.entry i j).pendingPacket = none := by rw [hs.2]
  refine ⟨hs.1.setEntry rfl fun b parked => ?_, ?_⟩
  · rw [parked.2] at empty
    cases empty
  · rw [entry_setEntry, if_pos ⟨rfl, rfl⟩]
    exact empty

theorem Owned.free_empty (owned : Owned cfg held net) (lt : j < cfg.arpCacheSize)
    (other : (net.entry i j).state ≠ .pending) : (net.entry i j).pendingPacket = none := by
  cases pointer : (net.entry i j).pendingPacket with
  | none => rfl
  | some b => exact absurd (owned.parked_pending i j b ⟨lt, pointer⟩) other

theorem arpFind_spec {p : ArpEntry → Bool} (found : arpFind cfg net i p = some j) :
    j < cfg.arpCacheSize ∧ p (net.entry i j) = true := by
  have found : (List.range cfg.arpCacheSize).find? (fun j => p (net.entry i j)) = some j := found
  have test := List.find?_some found
  exact ⟨mem_range.mp (List.mem_of_find?_eq_some found), test⟩

theorem arpOldest_lt {state : ArpState} {deadline : ArpEntry → Nat}
    (found : arpOldest cfg net i state deadline = some j) : j < cfg.arpCacheSize := by
  have inside : ∀ (indices : List Nat) (best : Int × Option Nat), (∀ k ∈ best.2, k < cfg.arpCacheSize) →
      (∀ k ∈ indices, k < cfg.arpCacheSize) →
      ∀ k ∈ (indices.foldl
        (fun best j =>
          let left := remaining (deadline (net.entry i j)) net.systemTicks
          if (net.entry i j).state = state ∧ left < best.1 then (left, some j) else best)
        best).2, k < cfg.arpCacheSize := by
    intro indices
    induction indices with
    | nil => exact fun best inside _ => inside
    | cons k rest ih =>
      intro best hbest hall
      apply ih
      · dsimp only
        split
        · intro m hm
          have eq : m = k := by simpa using hm.symm
          exact eq ▸ hall k mem_cons_self
        · exact hbest
      · exact fun m hm => hall m (mem_cons_of_mem _ hm)
  exact inside _ _ (by simp) (fun k hk => mem_range.mp hk) j found

theorem arpCacheAllocateEntry_spec :
    Triple (Owned cfg held) (arpCacheAllocateEntry cfg i)
      (fun found s => Owned cfg held s ∧
        ∀ j, found = some j → j < cfg.arpCacheSize ∧ (s.entry i j).pendingPacket = none) E := by
  apply Triple.forState
  intro net owned
  have evicted : ∀ j, j < cfg.arpCacheSize →
      Triple (· = net) (arpEvict cfg i j >>= fun _ => pure (some j))
        (fun found s => Owned cfg held s ∧
          ∀ j, found = some j → j < cfg.arpCacheSize ∧ (s.entry i j).pendingPacket = none) E := by
    intro j lt
    refine .bind ((arpEvict_spec lt).weaken (fun s hs => hs ▸ owned) (fun _ _ h => h) fun _ _ h => h) fun _ => ?_
    refine .pure fun s hs => ⟨hs.1, fun k eq => ?_⟩
    cases eq
    exact ⟨lt, hs.2⟩
  refine .bind (R := fun n s => n = net ∧ s = net) (.read fun s hs => ⟨hs, hs⟩) fun n => .assuming fun hn => ?_
  subst hn
  split
  · next j found =>
    obtain ⟨lt, free⟩ := arpFind_spec found
    have free : (n.entry i j).state = .free := of_decide_eq_true free
    have empty := owned.free_empty lt (by rw [free]; decide)
    refine .bind (R := fun _ s => Owned cfg held s ∧ (s.entry i j).pendingPacket = none) ?_ fun _ => ?_
    · rw [updateEntry_eq]
      refine .modify fun s hs => ?_
      subst hs
      refine ⟨owned.setEntry rfl fun b parked => ?_, ?_⟩
      · rw [parked.2] at empty
        cases empty
      · rw [entry_setEntry, if_pos ⟨rfl, rfl⟩]
        exact empty
    · refine .pure fun s hs => ⟨hs.1, fun k eq => ?_⟩
      cases eq
      exact ⟨lt, hs.2⟩
  · split
    · next j found => exact evicted j (arpOldest_lt found)
    · split
      · next j found => exact evicted j (arpOldest_lt found)
      · exact .pure fun s hs => hs ▸ ⟨owned, nofun⟩

end XSDK.Net
