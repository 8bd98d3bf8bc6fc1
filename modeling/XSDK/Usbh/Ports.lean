import XSDK.Usbh.System

/-! The round over the root ports. The ports share one enumeration record and one loop, and
the loop ends at the first step that reports an error. -/
namespace XSDK.Usbh

open Library Library.Call

/- What a round is for. -/

/-- Every call of the round takes one step of every port. -/
def EveryPortSteps (c : Config) (n : Nat) : Prop :=
  ∀ hcd start trace h, Booted c hcd n start → (machine c hcd).Run start trace h →
    ∀ p < n, (usbhProcess c hcd h).2.log.count (.stepped p) = h.log.count (.stepped p) + 1

/-- A device that answers the standard requests. -/
structure Attached where
  speed : Speed
  deviceDescriptor : List UInt8
  configuration : List UInt8

def Attached.answer (device : Attached) (setup : SetupRequest) : List UInt8 :=
  if setup.request = 6 then
    (if setup.value / 256 = descTypeDevice then device.deviceDescriptor else device.configuration).take setup.length
  else []

def memoryOf (bytes : List UInt8) : Nat → UInt8 := overlay (fun _ => 0) bytes

/-- A host on which a device has been given a slot and an address. -/
def Host.withDevice (n : Nat) (drivers : List ClassDriver) : Host :=
  { Host.idle n drivers [] with
    devices := Function.update (fun _ => Device.zero) 0 { Device.zero with isAllocated := true, address := 1, state := .addressed } }

/-- The host after it has accepted the device's configuration and bound its interfaces. -/
def Attached.settled (c : Config) (hcd : Hcd) (n : Nat) (drivers : List ClassDriver) (device : Attached) :
    Except Error Unit × Host :=
  (do deviceBuildTopology c 0 (memoryOf device.configuration) device.configuration.length
      classBindDevice c hcd 0 : HostM Unit) (.withDevice n drivers)

/-- Its descriptors are in order, and on its own the stack takes it. -/
structure Attached.Correct (c : Config) (hcd : Hcd) (n : Nat) (drivers : List ClassDriver)
    (device : Attached) : Prop where
  descriptor : ∃ d, deviceDescriptorParse (memoryOf device.deviceDescriptor) device.deviceDescriptor.length = .ok d ∧
    d.configurationCount ≠ 0
  packets : ∃ size, ep0PacketSizeDecode device.speed (device.deviceDescriptor.getD 7 0).toNat = .ok size
  configured : ∃ d, configurationDescriptorParse (memoryOf device.configuration) device.configuration.length = .ok d ∧
    d.totalLength = device.configuration.length ∧ d.totalLength ≤ c.maxConfigDescriptorSize ∧ d.interfaceCount ≠ 0
  settles : (device.settled c hcd n drivers).1 = .ok ()

def used (size : Nat) (allocated : Nat → Bool) : Nat := ((List.range size).filter allocated).length

/-- There are slots for both devices and for the enumeration's transfer. -/
structure Room (c : Config) (h h' : Host) : Prop where
  devices : 2 ≤ c.maxDevices
  transfers : used c.maxTransfers (fun t => (h.transfers t).isAllocated) +
    used c.maxTransfers (fun t => (h'.transfers t).isAllocated) < c.maxTransfers
  interfaces : used c.maxInterfaces (fun i => (h.interfaces i).isAllocated) +
    used c.maxInterfaces (fun i => (h'.interfaces i).isAllocated) ≤ c.maxInterfaces
  endpoints : used c.maxEndpoints (fun e => (h.endpoints e).isAllocated) +
    used c.maxEndpoints (fun e => (h'.endpoints e).isAllocated) ≤ c.maxEndpoints
  hid : used c.hidMaxInstances (fun k => (h.hid k).isAllocated) +
    used c.hidMaxInstances (fun k => (h'.hid k).isAllocated) ≤ c.hidMaxInstances
  msc : used c.mscMaxInstances (fun k => (h.msc k).isAllocated) +
    used c.mscMaxInstances (fun k => (h'.msc k).isAllocated) ≤ c.mscMaxInstances

/-- An endless run in which the stack is called again and again. -/
structure Session (c : Config) (hcd : Hcd) (n : Nat) (drivers : List ClassDriver) where
  state : Nat → Host
  op : Nat → Op
  booted : boot c hcd n drivers Host.zero = (.ok (), state 0)
  next : ∀ k, (machine c hcd).allowed (state k) (op k) ∧ state (k + 1) = (call c hcd (op k) (state k)).2
  processes : ∀ k, ∃ later ≥ k, op later = .process

/-- A device is connected to a port and stays, its resets finish, and its transfers end with
its answers. -/
structure Session.Serves {c : Config} {hcd : Hcd} {n : Nat} {drivers : List ClassDriver}
    (s : Session c hcd n drivers) (p : Nat)
    (device : Attached) : Prop where
  connected : ∃ k, s.op k = .portEvent p .connected
  stays : ∀ k event, s.op k = .portEvent p event → event = .connected ∨ event = .resetComplete
  port : ∀ log, hcd.getPortStatus log p = .ok ⟨true, true, false, device.speed⟩ ∧ hcd.portPower log p = .ok () ∧
    hcd.portReset log p = .ok ()
  resets : ∀ k, ((s.state k).rootPorts p).state = .resetting → ∃ later ≥ k, s.op later = .portEvent p .resetComplete
  answers : ∀ k, (s.state k).enumeration.isActive = true → (s.state k).enumeration.port = p →
    let t := (s.state k).enumeration.transferIndex
    let answer := device.answer ((s.state k).transfers t).setup
    (∀ event length bytes, s.op k = .transferEvent t event length bytes → event = .complete ∧ length = answer.length ∧ bytes = answer) ∧
      (((s.state k).transfers t).isSubmitted = true →
        ∃ later ≥ k, s.op later = .transferEvent t .complete answer.length answer)

/-- Two devices on different ports are both configured in the end. -/
def BothConfigured (c : Config) (n : Nat) : Prop :=
  ∀ hcd drivers (s : Session c hcd n drivers) p q first second, p < n → q < n → p ≠ q →
    (∀ log t transfer, hcd.submitTransfer log t transfer = .ok ()) → first.Correct c hcd n drivers →
    second.Correct c hcd n drivers →
    Room c (first.settled c hcd n drivers).2 (second.settled c hcd n drivers).2 → s.Serves p first → s.Serves q second →
    ∃ k, ((s.state k).rootPorts p).state = .configured ∧ ((s.state k).rootPorts q).state = .configured

/-- The ports of a host with so many of them make progress independently. -/
def PortsIndependent (c : Config) (n : Nat) : Prop := EveryPortSteps c n ∧ BothConfigured c n

/- What a round does. -/

variable {c : Config} {hcd : Hcd} {n p q : Nat} {h : Host}

theorem count_remote (p m : Nat) : Remote fun h => h.log.count (.stepped p) = m where
  interfaces _ _ counted := counted
  endpoints _ _ counted := counted
  transfers _ _ counted := counted
  hid _ _ counted := counted
  msc _ _ counted := counted
  log _ r outward counted := by
    have other : (r == .stepped p) = false := beq_false_of_ne (outward p)
    rw [List.count_cons, other, counted]
    rfl
  rootPorts _ _ counted := counted
  enumeration _ _ counted := counted
  devices _ _ counted := counted
  controlBuffer _ _ counted := counted

theorem rootPortStep_count :
    (rootPortStep c hcd q h).2.log.count (.stepped p) = h.log.count (.stepped p) + if q = p then 1 else 0 := by
  have marked : (Record.stepped q :: h.log).count (.stepped p) = h.log.count (.stepped p) + if q = p then 1 else 0 := by
    by_cases same : q = p
    · rw [same, List.count_cons_self, if_pos rfl]
    · rw [List.count_cons_of_ne (by simpa using same), if_neg same, Nat.add_zero]
  exact (rootPortProcess_keeps (count_remote p _)).after (s := { h with log := .stepped q :: h.log }) marked

theorem rounds_apart {m k : Nat} (apart : p < k ∨ k + m ≤ p) :
    (forEach (rootPortStep c hcd) m k h).2.log.count (.stepped p) = h.log.count (.stepped p) := by
  let same (h' : Host) : Prop := h'.log.count (.stepped p) = h.log.count (.stepped p)
  have kept : Triple same (forEach (rootPortStep c hcd) m k) (fun _ => same) fun _ => same := by
    refine Triple.forEach (I := fun _ => same) fun j low high h' before => ?_
    have other : j ≠ p := by omega
    have after : same (rootPortStep c hcd j h').2 := by
      simp only [same, rootPortStep_count, if_neg other, Nat.add_zero]
      exact before
    rcases run : rootPortStep c hcd j h' with ⟨_ | _, h''⟩
    · rwa [run] at after
    · rwa [run] at after
  exact kept.always (K := same) rfl

theorem rounds_count (small : p < n) :
    (forEach (rootPortStep c hcd) n 0 h).2.log.count (.stepped p) =
      h.log.count (.stepped p) + if (forEach (rootPortStep c hcd) p 0 h).1 = .ok () then 1 else 0 := by
  obtain ⟨rest, rfl⟩ : ∃ rest, n = p + (1 + rest) := ⟨n - p - 1, by omega⟩
  have before : (forEach (rootPortStep c hcd) p 0 h).2.log.count (.stepped p) = h.log.count (.stepped p) :=
    rounds_apart (.inr (by omega))
  rw [forEach_add]
  rcases run : forEach (rootPortStep c hcd) p 0 h with ⟨e | u, h'⟩
  · rw [run] at before
    rw [bind_error _ run, if_neg (by simp), before, Nat.add_zero]
  · rw [run] at before
    have reached : (Except.ok u : Except Error Unit) = .ok () := rfl
    have step : (rootPortStep c hcd p h').2.log.count (.stepped p) = h'.log.count (.stepped p) + 1 := by
      rw [rootPortStep_count, if_pos rfl]
    rw [bind_ok _ run, if_pos reached, Nat.zero_add, forEach_add, ← before]
    rcases one : rootPortStep c hcd p h' with ⟨e | v, h''⟩
    · rw [one] at step
      have single : forEach (rootPortStep c hcd) 1 p h' = (.error e, h'') := bind_error _ one
      rw [bind_error _ single, step]
    · rw [one] at step
      have single : forEach (rootPortStep c hcd) 1 p h' = (.ok (), h'') := bind_ok _ one
      rw [bind_ok _ single, rounds_apart (.inl (by omega)), step]

theorem usbhProcess_up (up : Up n h) : usbhProcess c hcd h = forEach (rootPortStep c hcd) n 0 h := by
  have initialized : ¬h.isInitialized = false := by simp [up.initialized]
  have started : ¬h.isStarted = false := by simp [up.started]
  simp only [usbhProcess, rootPortsProcess, read_bind, id_eq]
  rw [reject_bind_neg _ initialized, reject_bind_neg _ started, read_bind, id_eq, up.ports]

theorem process_steps_all (up : Up n h) :
    (∀ p < n, (usbhProcess c hcd h).2.log.count (.stepped p) = h.log.count (.stepped p) + 1) ↔
      ∀ p < n, (forEach (rootPortStep c hcd) p 0 h).1 = .ok () := by
  rw [usbhProcess_up up]
  refine forall₂_congr fun p small => ?_
  rw [rounds_count small]
  split
  · next reached => exact ⟨fun _ => reached, fun _ => rfl⟩
  · next missed => exact ⟨fun counted => absurd counted (by omega), fun reached => absurd reached missed⟩

theorem boot_idle (valid : 0 < n ∧ n ≤ c.maxRootPorts) (init : ∀ log, hcd.init log = .ok ())
    (start : ∀ log, hcd.start log = .ok ()) (enable : ∀ log, hcd.enableInterrupts log = .ok ()) :
    boot c hcd n [] Host.zero = (.ok (), .idle n [] [.enableInterrupts, .start, .init]) := by
  have inside : ¬(n = 0 ∨ c.maxRootPorts < n) := by omega
  rw [boot, usbhInit, reject_bind_neg _ inside]
  change usbhStart hcd (.ready n []) = _
  simp only [usbhStart, read_bind, id_eq]
  rw [reject_bind_neg _ (by simp [Host.ready]), reject_bind_neg _ (by simp [Host.ready, Host.zero])]
  simp only [hostHcdStart, note, init, start, enable, finish_ok, onError_pure]
  rfl

def RootPort.attached (c : Config) : RootPort :=
  { RootPort.zero with state := .connected, isConnected := true, debounceRemaining := c.connectDebounceSamples % 2 ^ 8 }

theorem connect_run (valid : p < h.rootPortCount) (empty : (h.rootPorts p).state = .disconnected) :
    (hcdPortEventHandle c hcd p .connected h).2 =
      { h with rootPorts := Function.update h.rootPorts p (RootPort.attached c) } := by
  have inside : ¬portIsValid h p = false := by simp [portIsValid, valid]
  have fresh : ¬((h.rootPorts p).state ≠ .disconnected ∧ (h.rootPorts p).state ≠ .error) := by simp [empty]
  simp only [hcdPortEventHandle, read_bind, id_eq, if_neg inside, ignore_run, rootPortConnectedSet]
  rw [reject_bind_neg _ inside, if_neg fresh]
  simp only [rootPortClear, updatePort, modify_bind, modify_run, Function.update_self, Function.update_idem]
  rfl

def blindHcd : Hcd where
  init _ := .ok ()
  start _ := .ok ()
  enableInterrupts _ := .ok ()
  portPower _ _ := .ok ()
  portReset _ _ := .ok ()
  getPortStatus _ _ := .error (.hcd 1)
  submitTransfer _ _ _ := .ok ()
  cancelTransfer _ _ := .ok ()

theorem blind_round {log : List Record} :
    (forEach (rootPortStep c blindHcd) 1 0
      { Host.idle n [] log with rootPorts := Function.update (Host.idle n [] log).rootPorts 0 (.attached c) }).1 =
      .error (.hcd 1) := by
  have here : (Function.update (Host.idle n [] log).rootPorts 0 (.attached c) 0).state = .connected := by
    rw [Function.update_self]
    rfl
  simp only [forEach, rootPortStep, note, rootPortProcess]
  rw [bind_error (e := .hcd 1) _]
  rw [modify_bind, read_bind]
  simp only [id_eq, here]
  rfl

def sampleConfig : Config where
  maxRootPorts := 2
  maxDevices := 2
  maxInterfaces := 4
  maxEndpoints := 8
  maxTransfers := 4
  maxClassDrivers := 4
  hidMaxInstances := 2
  mscMaxInstances := 1
  maxConfigDescriptorSize := 256
  connectDebounceSamples := 1
  controlTransferTimeoutTicks := 100
  addressSettleTicks := 1
  rootPorts_small := by decide
  devices_small := by decide
  interfaces_small := by decide
  endpoints_small := by decide
  transfers_small := by decide

def sampleHcd : Hcd where
  init _ := .ok ()
  start _ := .ok ()
  enableInterrupts _ := .ok ()
  portPower _ _ := .ok ()
  portReset _ _ := .ok ()
  getPortStatus _ _ := .ok ⟨true, true, false, .full⟩
  submitTransfer _ _ _ := .ok ()
  cancelTransfer _ _ := .ok ()

def sampleStarted : Host := .idle 2 [] [.enableInterrupts, .start, .init]

/-- The second port's device is reset, and its enumeration starts. -/
def sampleArrival : List Op :=
  [.portEvent 1 .connected, .process, .process, .process, .portEvent 1 .resetComplete, .process, .process]

end XSDK.Usbh
