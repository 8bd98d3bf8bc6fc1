import XSDK.Library.Runs
import XSDK.Net.Conservation

/-! Runs of the stack: the application, the drivers and the timer call it in any order. -/
namespace XSDK.Net

open Library Prog

inductive Op where
  | interfaceAdd (config : InterfaceConfig)
  | linkSet (i : Nat) (isLinkUp : Bool)
  | ipv4ConfigStatic (i : Nat) (ipAddr netmask gateway : Addr)
  | udpOpen (n localPort : Nat)
  | udpClose (n : Nat)
  | udpSendTo (n : Nat) (remoteAddr : Addr) (remotePort : Nat) (payload : List UInt8)
  | rxFrame (i : Nat) (frame : List UInt8) (rxFlags : Nat)
  | arpTick (i : Nat)
  | dhcpStart (i : Nat)
  | dhcpStop (i : Nat)
  | dhcpTick (i elapsedMs : Nat)
  | tick (elapsedMs : Nat)
  | process (polls : Nat → Poll)

variable (cfg : Config) (env : Env)

def call : Op → StackM Unit
  | .interfaceAdd config => interfaceAdd cfg config
  | .linkSet i isLinkUp => interfaceLinkSet i isLinkUp
  | .ipv4ConfigStatic i ipAddr netmask gateway => ipv4ConfigStatic cfg i ipAddr netmask gateway
  | .udpOpen n localPort => udpOpen cfg (.user n) localPort
  | .udpClose n => udpClose cfg (.user n)
  | .udpSendTo n remoteAddr remotePort payload => udpSendTo cfg env (.user n) remoteAddr remotePort payload
  | .rxFrame i frame rxFlags => interfaceRxFrame cfg env i frame rxFlags
  | .arpTick i => arpTick cfg i
  | .dhcpStart i => dhcpStart cfg env i
  | .dhcpStop i => dhcpStop cfg i
  | .dhcpTick i elapsedMs => dhcpTick cfg env i elapsedMs
  | .tick elapsedMs => tick cfg env elapsedMs
  | .process polls => process cfg env polls

/-- After a call that does not return there is no next call. -/
def machine : Machine Stack Op (Except Error Unit) where
  allowed net op := (call cfg env op net).isSome = true
  step net op :=
    match call cfg env op net with
    | none => (net, .ok ())
    | some (result, net') => (net', result)

variable {cfg} {held : List Nat} {net : Stack}

theorem call_keeps (op : Op) : Keeps (Owned cfg held) (call cfg env op) := by
  cases op with
  | interfaceAdd => exact interfaceAdd_keeps
  | linkSet i isLinkUp =>
    have kept : Keeps (Owned cfg held) (interfaceLinkSet i isLinkUp) := updateInterface_owned fun _ => rfl
    exact kept
  | ipv4ConfigStatic => exact ipv4ConfigStatic_keeps
  | udpOpen => exact udpOpen_keeps
  | udpClose => exact udpClose_keeps
  | udpSendTo => exact udpSendTo_keeps env
  | rxFrame => exact interfaceRxFrame_keeps env
  | arpTick => exact arpTick_keeps
  | dhcpStart => exact dhcpStart_keeps env
  | dhcpStop => exact dhcpStop_keeps
  | dhcpTick => exact dhcpTick_keeps env
  | tick => exact tick_keeps env
  | process => exact process_keeps env

theorem init_owned (memory : Nat → Nat → UInt8) : Owned cfg [] (Stack.init memory) := by
  have empty : ∀ i j b, ¬Parked cfg (Stack.init memory) i j b := fun i j b h => nomatch h.2
  exact
    { initialized := rfl
      held_nodup := .nil
      held_lt := nofun
      parked_lt := fun i j b h => absurd h (empty i j b)
      parked_unique := fun i j i' j' b h => absurd h (empty i j b)
      parked_pending := fun i j b h => absurd h (empty i j b)
      parked_not_held := fun i j b h => absurd h (empty i j b)
      overwritten_lt := nofun
      overwritten_not_held := nofun
      overwritten_not_parked := nofun
      inUse := by
        intro b _
        constructor
        · exact nofun
        · rintro (h | ⟨i, j, h⟩ | h)
          · cases h
          · exact absurd h (empty i j b)
          · cases h }

variable {trace : List (Transition Stack Op (Except Error Unit))} {memory : Nat → Nat → UInt8}

theorem run_keeps {I : Stack → Prop} (start : I (Stack.init memory)) (kept : ∀ op, Keeps I (call cfg env op))
    (run : (machine cfg env).Run (Stack.init memory) trace net) : I net := by
  refine run.invariant start fun s op hs allowed => ?_
  simp only [machine]
  cases h : call cfg env op s with
  | none => exact hs
  | some out => exact (kept op).always hs h

theorem run_owned
    (run : (machine cfg env).Run (Stack.init memory) trace net) : Owned cfg [] net :=
  run_keeps env (init_owned memory) (call_keeps env) run

/-- Between two calls every used buffer is parked in one entry, which waits, and what is
parked is used; so with nobody waiting the pool is free. -/
structure Conserved (cfg : Config) (net : Stack) : Prop where
  used_parked : ∀ b < cfg.packetPoolSize, net.inUse b = true →
    ∃ i j, Parked cfg net i j b ∧ (net.entry i j).state = .pending ∧ ∀ i' j', Parked cfg net i' j' b → i' = i ∧ j' = j
  parked_used : ∀ i j b, Parked cfg net i j b → b < cfg.packetPoolSize ∧ net.inUse b = true
  idle_free : (∀ i j, j < cfg.arpCacheSize → (net.entry i j).state ≠ .pending) →
    ∀ b < cfg.packetPoolSize, net.inUse b = false

theorem conserved_iff (owned : Owned cfg [] net) : Conserved cfg net ↔ net.overwritten = [] := by
  constructor
  · intro conserved
    apply List.eq_nil_iff_forall_not_mem.mpr
    intro b mem
    have lt := owned.overwritten_lt b mem
    obtain ⟨i, j, parked, -⟩ := conserved.used_parked b lt ((owned.inUse b lt).mpr (.inr (.inr mem)))
    exact owned.overwritten_not_parked b mem i j parked
  · intro none
    have parked_of_used : ∀ b < cfg.packetPoolSize, net.inUse b = true → ∃ i j, Parked cfg net i j b := by
      intro b lt used
      rcases (owned.inUse b lt).mp used with h | h | h
      · cases h
      · exact h
      · rw [none] at h
        cases h
    constructor
    · intro b lt used
      obtain ⟨i, j, parked⟩ := parked_of_used b lt used
      exact ⟨i, j, parked, owned.parked_pending i j b parked, fun i' j' h => owned.parked_unique i' j' i j b h parked⟩
    · intro i j b parked
      have lt := owned.parked_lt i j b parked
      exact ⟨lt, (owned.inUse b lt).mpr (.inr (.inl ⟨i, j, parked⟩))⟩
    · intro idle b lt
      by_contra used
      obtain ⟨i, j, parked⟩ := parked_of_used b lt (by simpa using used)
      exact idle i j parked.1 (owned.parked_pending i j b parked)

/-- In every run, the pool is conserved as long as no reset of an ARP cache by the DHCP
client has met a parked packet, and never again after one has. -/
theorem pool_conserved {memory : Nat → Nat → UInt8} {trace : List (Transition Stack Op (Except Error Unit))}
    (run : (machine cfg env).Run (Stack.init memory) trace net) : Conserved cfg net ↔ net.overwritten = [] :=
  conserved_iff (run_owned env run)

section Sample

def sampleConfig : Config := ⟨8, 2, 8, 300000, 3, 1000, 64, 4⟩
def sampleEnv : Env := ⟨fun _ => .ok (), fun _ => .ok ()⟩

def sampleInterface : InterfaceConfig where
  macAddr := ![2, 0, 0, 0, 0, 1]
  ipAddr := ![192, 168, 1, 2]
  netmask := ![255, 255, 255, 0]
  gateway := zeroAddr
  checksumCaps := ⟨false, false, false, false, false, false⟩

/-- A datagram waits for the address of 192.168.1.77. -/
def sampleWaiting : List Op :=
  [.interfaceAdd sampleInterface, .linkSet 0 true, .udpOpen 0 5000, .udpSendTo 0 ![192, 168, 1, 77] 9 [1, 2, 3]]

instance (net : Stack) (op : Op) : Decidable ((machine cfg env).allowed net op) :=
  inferInstanceAs (Decidable ((call cfg env op net).isSome = true))

abbrev sampleStart : Stack := Stack.init fun _ _ => 0

theorem sampleWaiting_legal : (machine sampleConfig sampleEnv).Legal sampleStart sampleWaiting := by
  refine ⟨?_, ?_, ?_, ?_, trivial⟩
  all_goals decide +kernel

theorem sampleReset_legal : (machine sampleConfig sampleEnv).Legal sampleStart (sampleWaiting ++ [.dhcpStart 0]) := by
  refine ⟨?_, ?_, ?_, ?_, ?_, trivial⟩
  all_goals decide +kernel

theorem pool_conserved_sample :
    Conserved sampleConfig ((machine sampleConfig sampleEnv).play sampleStart sampleWaiting) :=
  (pool_conserved sampleEnv (Machine.run_of_legal sampleWaiting_legal)).mpr (by decide +kernel)

/-- Starting the DHCP client while the datagram waits loses its buffer for good. -/
theorem pool_leaks :
    ¬Conserved sampleConfig ((machine sampleConfig sampleEnv).play sampleStart (sampleWaiting ++ [.dhcpStart 0])) := by
  have owned := run_owned sampleEnv (Machine.run_of_legal sampleReset_legal)
  rw [conserved_iff owned]
  decide +kernel

end Sample

end XSDK.Net
