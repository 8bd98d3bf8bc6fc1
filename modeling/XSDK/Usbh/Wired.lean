import XSDK.Usbh.Enumeration
import XSDK.Usbh.Ports

/-! The references between the slots hold in every state of a started host. -/
namespace XSDK.Usbh

open Library Library.Call
open Function (update update_self update_of_ne)

variable {c : Config} {hcd : Hcd} {n p d : Nat} {h h' : Host}

def Host.abandoned (h : Host) (transfers : Nat → Transfer) (log : List Record) : Host :=
  { h with
    rootPorts :=
      if h.enumeration.port < h.rootPortCount then
        update h.rootPorts h.enumeration.port { h.rootPorts h.enumeration.port with state := .error }
      else h.rootPorts,
    enumeration := { h.enumeration with hasTransfer := false, isActive := false, state := .error },
    transfers := transfers, log := log }

inductive GivenUp (c : Config) (hcd : Hcd) (h : Host) : (Nat → Transfer) → Prop
  | missing (missing : enumTransferGet c h = none) : GivenUp c hcd h h.transfers
  | freed {t : Nat} (slot : enumTransferGet c h = some t) : GivenUp c hcd h (update h.transfers t .zero)
  | refused {t : Nat} {e : Error} (slot : enumTransferGet c h = some t) (submitted : (h.transfers t).isSubmitted = true)
      (refused : hcd.cancelTransfer h.log t = .error e) : GivenUp c hcd h h.transfers

theorem enumTransferRelease_effect (c : Config) (hcd : Hcd) (up : Up n h) :
    ∃ r transfers log, enumTransferRelease c hcd h =
      (r, { h with enumeration := { h.enumeration with hasTransfer := false }, transfers := transfers, log := log }) ∧
      GivenUp c hcd h transfers := by
  simp only [enumTransferRelease, read_bind, id_eq]
  rcases slot : enumTransferGet c h with _ | t
  · exact ⟨.ok (), h.transfers, h.log, rfl, .missing slot⟩
  · obtain ⟨-, small, allocated⟩ := enumTransferGet_some slot
    simp only [attempt_bind]
    rcases transferRelease_effect c hcd up t with ⟨log, run, -⟩ | ⟨e, log, run, why⟩
    · rw [run]
      exact ⟨.ok (), _, log, rfl, .freed slot⟩
    · obtain ⟨refused, submitted⟩ := why small allocated
      rw [run]
      exact ⟨.error e, h.transfers, log, rfl, .refused slot submitted refused⟩

theorem enumFail_effect (c : Config) (hcd : Hcd) (up : Up n h) (e : Error) :
    ∃ transfers log, enumFail c hcd e h = (.error e, h.abandoned transfers log) ∧ GivenUp c hcd h transfers := by
  let marked : Host := { h with
    rootPorts :=
      if h.enumeration.port < h.rootPortCount then
        update h.rootPorts h.enumeration.port { h.rootPorts h.enumeration.port with state := .error }
      else h.rootPorts }
  have mark : (onlyIf (portIsValid h h.enumeration.port = true)
      (updatePort h.enumeration.port fun port => { port with state := .error }) : HostM Unit) h = (.ok (), marked) := by
    by_cases valid : h.enumeration.port < h.rootPortCount
    · rw [onlyIf, if_pos (by simp [portIsValid, valid]), updatePort, modify_run]
      simp only [marked, if_pos valid]
    · rw [onlyIf, if_neg (by simp [portIsValid, valid]), pure_run]
      simp only [marked, if_neg valid]
  have upMarked : Up n marked := up.frame rfl
  obtain ⟨r, transfers, log, run, given⟩ := enumTransferRelease_effect c hcd upMarked
  refine ⟨transfers, log, ?_, ?_⟩
  · simp only [enumFail, read_bind, id_eq]
    rw [bind_ok _ mark, ignore_bind, run]
    rfl
  · cases given with
    | missing missing => exact .missing missing
    | freed slot => exact .freed slot
    | refused slot submitted refused => exact .refused slot submitted refused

namespace Linked

variable (linked : Linked c n h)
include linked

theorem abandoned (transfers : Nat → Transfer) (log : List Record) : Linked c n (h.abandoned transfers log) :=
  linked.frame rfl

theorem withTransfers (transfers : Nat → Transfer) (log : List Record) :
    Linked c n { h with transfers := transfers, log := log } :=
  linked.frame rfl

theorem freed (t : Nat) : Linked c n (h.freed t) :=
  linked.frame rfl

theorem withRequest (t : Nat) (request : ControlRequest) : Linked c n (h.withRequest c t request) :=
  linked.frame rfl

end Linked

theorem Enumerated.address_ne (enumerated : Enumerated c h) (addressed : h.enumeration.state.addressed = true) :
    h.enumerated.address ≠ 0 := by
  rw [enumerated.address, if_pos addressed]
  omega

variable {length : Nat} {parser : TopologyParse} {data : Nat → UInt8} {h₁ : Host}

theorem Failure.linked (failure : Failure c hcd h h₁) (linked : Linked c n h) (enumerated : Enumerated c h) :
    Linked c n h₁ := by
  cases failure with
  | missing state _ => exact linked.withEnumeration _
  | timeout _ _ _ _ => exact linked
  | answer _ _ _ => exact linked
  | address _ => exact linked
  | refused state log _ _ => exact (linked.withEnumeration _).withTransfers _ _
  | topology _ _ => exact deviceBuildTopology_linked.after linked
  | bind state _ =>
    have address := enumerated.address_ne (by rw [state]; rfl)
    exact (classBindDevice_linked.after ⟨linked.freed _, address⟩).1

theorem Failure.inactive (failure : Failure c hcd h h₁) (linked : Linked c n h)
    (enumerated : Enumerated c h) (e : Error) : ¬ (enumFail c hcd e h₁).2.enumeration.isActive = true := by
  obtain ⟨transfers, log, run, -⟩ := enumFail_effect c hcd (failure.linked linked enumerated).up e
  rw [run]
  exact Bool.false_ne_true

theorem Step.linked (step : Step c hcd h h') (linked : Linked c n h) (enumerated : Enumerated c h) : Linked c n h' := by
  obtain ⟨small, allocated⟩ := enumerated.device
  have addressed := linked.device _ small allocated
  cases step with
  | tick _ _ _ _ => exact linked.withEnumeration _
  | settle _ _ => exact linked.withEnumeration _
  | submit _ _ _ => exact linked.withRequest _ _
  | header packetSize _ _ =>
    exact (linked.withDevice { h.enumerated with ep0MaxPacketSize := packetSize } (fun same => same) (fun _ => addressed)
      fun _ kept => kept).withEnumeration _
  | address _ _ =>
    refine (linked.withDevice { h.enumerated with address := h.enumeration.assignedAddress, state := .addressed } (fun same => same)
      (fun _ => .inr enumerated.assigned) fun _ _ => ?_).withEnumeration _
    have assigned := enumerated.assigned
    change h.enumeration.assignedAddress ≠ 0
    omega
  | device descriptor _ _ =>
    exact (linked.withDevice
      { h.enumerated with
        vendorId := descriptor.vendorId, productId := descriptor.productId, deviceClass := descriptor.deviceClass,
        deviceSubclass := descriptor.deviceSubclass, deviceProtocol := descriptor.deviceProtocol }
      (fun same => same) (fun _ => addressed) fun _ kept => kept).withEnumeration _
  | configuration _ _ _ => exact linked.withEnumeration _
  | topology built _ _ _ run =>
    have keeps : Keeps (Linked c n)
        (deviceBuildTopology c h.enumeration.deviceIndex h.controlBuffer h.enumeration.configTotalLength) :=
          deviceBuildTopology_linked
    have kept := keeps.after linked
    rw [run] at kept
    exact kept.withEnumeration _
  | @configured t bound state _ run =>
    have address := enumerated.address_ne (by rw [state]; rfl)
    obtain ⟨devices, -, -⟩ := classBindDevice_same run
    have keeps : Keeps (fun h₁ => Linked c n h₁ ∧ (h₁.devices h.enumeration.deviceIndex).address ≠ 0)
        (classBindDevice c hcd h.enumeration.deviceIndex) := classBindDevice_linked
    have kept := keeps.after (s := h.freed t) ⟨linked.freed t, address⟩
    rw [run] at kept
    have here : bound.devices h.enumeration.deviceIndex = h.enumerated := by
      rw [devices]
      rfl
    have done := kept.1.withDevice (d := h.enumeration.deviceIndex)
      { h.enumerated with
        activeConfigurationValue := h.enumeration.configurationValue, isConfigured := true, state := .configured }
      (fun allocated => by rwa [here] at allocated) (fun _ => addressed) fun _ kept => by rwa [here] at kept
    rw [devices] at done
    exact (done.withPorts _).withEnumeration _
  | failed e failure =>
    have before := failure.linked linked enumerated
    obtain ⟨transfers, log, run, -⟩ := enumFail_effect c hcd before.up e
    rw [run]
    exact before.abandoned _ _

def Undriven (c : Config) (d : Nat) (h : Host) : Prop :=
  ∀ i < c.maxInterfaces, (h.interfaces i).deviceIndex = d → (h.interfaces i).classDriver = none

theorem updateInterface_undriven {i : Nat} {f : Interface → Interface}
    (none : ∀ x : Interface, (x.deviceIndex = d → x.classDriver = none) → (f x).deviceIndex = d → (f x).classDriver = none) :
    Keeps (Undriven c d) (updateInterface i f) := by
  refine .modify fun h undriven j small => ?_
  by_cases same : j = i
  · subst same
    simpa only [update_self] using none _ (undriven j small)
  · simpa only [update_of_ne same] using undriven j small

theorem updateEndpoint_undriven {e : Nat} {f : Endpoint → Endpoint} : Keeps (Undriven c d) (updateEndpoint e f) :=
  .modify fun _ undriven => undriven

theorem topologyInterfaceStore_undriven : Keeps (Undriven c d) (topologyInterfaceStore c d data length parser) := by
  refine .bind topologyCurrentInterfaceFinish_keeps fun _ => .bind .finish fun _ => .ite (fun _ => .pure) fun _ =>
    .bind ?_ fun _ => .bind (updateInterface_undriven fun _ before => before) fun _ => .pure
  refine .bind ready_keeps fun _ => .bind .read fun h => .bind .reject fun _ => ?_
  split
  · exact .bind (updateInterface_undriven fun _ _ _ => rfl) fun _ => .pure
  · exact .fail

theorem topologyEndpointStore_undriven : Keeps (Undriven c d) (topologyEndpointStore c d data length parser) := by
  refine .bind .read fun h => ?_
  split
  · exact .ite (fun _ => .pure) fun _ => .fail
  · refine .bind .reject fun _ => .bind .finish fun _ => .bind .reject fun _ => .bind ?_ fun _ =>
      .bind updateEndpoint_undriven fun _ => .bind (updateInterface_undriven fun _ before => before) fun _ => .pure
    refine .bind ready_keeps fun _ => .bind .read fun h => .bind .reject fun _ => ?_
    split
    · exact .bind updateEndpoint_undriven fun _ => .pure
    · exact .fail

theorem deviceBuildTopology_undriven {buffer : Nat → UInt8} :
    Keeps (Undriven c d) (deviceBuildTopology c d buffer length) := by
  have released : Keeps (Undriven c d) (releaseInterfacesForDevice c d) :=
    .forEach fun _ => .bind .read fun _ => .onlyIf <| .bind
      (.forEach fun _ => .bind .read fun _ => .onlyIf updateEndpoint_undriven)
      fun _ => updateInterface_undriven fun _ _ _ => rfl
  have walk {fuel length offset : Nat} {parser : TopologyParse} :
      Keeps (Undriven c d) (topologyWalk c d buffer length fuel offset parser) := by
    induction fuel generalizing offset parser with
    | zero => exact .pure
    | succ fuel ih =>
      refine .ite (fun _ => .pure) fun _ => .bind .finish fun _ => .bind ?_ fun _ => ih
      exact .ite (fun _ => topologyInterfaceStore_undriven)
        fun _ => .ite (fun _ => topologyEndpointStore_undriven) fun _ => .pure
  exact .bind ready_keeps fun _ => .bind .read fun _ => .bind .reject fun _ => .bind .finish fun _ =>
    .bind released fun _ => .onError (.bind walk fun _ => .bind topologyCurrentInterfaceFinish_keeps fun _ => .reject) fun _ => released

theorem Enumeration.request_waits {e : Enumeration} {request : ControlRequest} (asked : e.request = some request) :
    request.waitState.running = true ∧ request.waitState.addressed = e.state.addressed := by
  rw [Enumeration.request] at asked
  split at asked
  case h_2 state =>
    rw [ControlRequest.address] at asked
    split at asked
    · cases asked
      exact ⟨rfl, by rw [state]; rfl⟩
    · cases asked
  case h_8 => cases asked
  all_goals
    next state =>
      cases asked
      exact ⟨rfl, by rw [state]; rfl⟩

theorem Enumerated.withEnumerated (enumerated : Enumerated c h) (x : Device) (e : Enumeration)
    (same : e.deviceIndex = h.enumeration.deviceIndex ∧ e.port = h.enumeration.port ∧
      e.assignedAddress = h.enumeration.assignedAddress)
    (running : e.state.running = true) (device : x.isAllocated = true ∧ x.port = h.enumeration.port)
    (address : x.address = if e.state.addressed = true then h.enumeration.deviceIndex + 1 else 0) :
    Enumerated c (h.withEnumerated x e) := by
  obtain ⟨index, port, assigned⟩ := same
  have here : (h.withEnumerated x e).enumerated = x := by
    simp only [Host.enumerated, Host.withEnumerated, index, update_self]
  have record : (h.withEnumerated x e).enumeration = e := rfl
  refine ⟨running, ⟨?_, ?_⟩, ?_, ?_, ?_, ?_, ?_⟩
  · rw [record, index]
    exact enumerated.device.1
  · rw [here]
    exact device.1
  · rw [record, port]
    exact enumerated.valid
  · rw [here, record, port]
    exact device.2
  · rw [record, index, assigned]
    exact enumerated.assigned
  · rw [here, record, index]
    exact address
  · rw [record, index]
    exact enumerated.undriven

theorem Step.enumerated (step : Step c hcd h h') (linked : Linked c n h) (enumerated : Enumerated c h)
    (active : h'.enumeration.isActive = true) : Enumerated c h' := by
  have address := enumerated.address
  cases step with
  | tick _ _ _ _ =>
    exact ⟨enumerated.1, enumerated.2, enumerated.3, enumerated.4, enumerated.5, enumerated.6, enumerated.7⟩
  | settle _ _ =>
    exact ⟨enumerated.1, enumerated.2, enumerated.3, enumerated.4, enumerated.5, enumerated.6, enumerated.7⟩
  | submit asked _ _ =>
    obtain ⟨running, addressed⟩ := Enumeration.request_waits asked
    refine ⟨running, enumerated.2, enumerated.3, enumerated.4, enumerated.5, ?_, enumerated.7⟩
    rw [← addressed] at address
    exact address
  | header packetSize state _ =>
    rw [state] at address
    exact enumerated.withEnumerated _ _ ⟨rfl, rfl, rfl⟩ rfl ⟨enumerated.device.2, enumerated.port⟩ address
  | address state _ =>
    exact enumerated.withEnumerated _ _ ⟨rfl, rfl, rfl⟩ rfl ⟨enumerated.device.2, enumerated.port⟩ enumerated.assigned
  | device descriptor state _ =>
    rw [state] at address
    exact enumerated.withEnumerated _ _ ⟨rfl, rfl, rfl⟩ rfl ⟨enumerated.device.2, enumerated.port⟩ address
  | configuration _ state _ =>
    rw [state] at address
    exact ⟨rfl, enumerated.2, enumerated.3, enumerated.4, enumerated.5, address, enumerated.7⟩
  | topology built state _ _ run =>
    rw [state] at address
    have keeps : Keeps (Undriven c h.enumeration.deviceIndex)
        (deviceBuildTopology c h.enumeration.deviceIndex h.controlBuffer h.enumeration.configTotalLength) :=
          deviceBuildTopology_undriven
    have undriven := keeps.after enumerated.undriven
    rw [run] at undriven
    rw [deviceBuildTopology_same run]
    exact ⟨rfl, enumerated.2, enumerated.3, enumerated.4, enumerated.5, address, undriven⟩
  | configured _ _ _ _ => cases active
  | failed e failure => exact absurd active (failure.inactive linked enumerated e)

/- Devices. -/

def Device.attachedTo (p : Nat) : Device :=
  { Device.zero with isAllocated := true, state := .attached, port := p, speed := .full }

theorem deviceAllocate_effect (c : Config) (up : Up n h) (p : Nat) :
    (∃ d, p < n ∧ d < c.maxDevices ∧ (h.devices d).isAllocated = false ∧
      deviceAllocate c p h = (.ok d, { h with devices := update h.devices d (.attachedTo p) })) ∨
    ∃ e, deviceAllocate c p h = (.error e, h) := by
  rw [deviceAllocate, bind_ok _ (ready_up up), read_bind, id_eq]
  by_cases bad : portIsValid h p = false
  · rw [reject_bind_pos _ bad]
    exact .inr ⟨_, rfl⟩
  · rw [reject_bind_neg _ bad]
    have valid : p < n := by simpa [portIsValid, up.ports] using bad
    rcases found : firstFree c.maxDevices fun d => (h.devices d).isAllocated with _ | d
    · exact .inr ⟨_, rfl⟩
    · obtain ⟨small, free⟩ := firstFree_some found
      exact .inl ⟨d, valid, small, free, rfl⟩

theorem Linked.deviceTaken (linked : Linked c n h) (x : Device) (free : (h.devices d).isAllocated = false)
    (taken : x.isAllocated = true) (address : x.address = 0) : Linked c n { h with devices := update h.devices d x } :=
  linked.withDevice x (fun _ => taken) (fun _ => .inl address) fun allocated => absurd allocated (by simp [free])

theorem Linked.deviceFreed (linked : Linked c n h) (lonely : ∀ i, ¬h.InterfaceOf c d i) :
    Linked c n { h with devices := update h.devices d .zero } where
  up := linked.up.frame rfl
  device d' small := by
    by_cases same : d' = d
    · subst same
      simp [Device.zero]
    · simpa only [update_of_ne same] using linked.device d' small
  interface i small taken := by
    obtain ⟨low, device⟩ := linked.interface i small taken
    have other : (h.interfaces i).deviceIndex ≠ d := fun same => lonely i ⟨small, taken, same⟩
    exact ⟨low, by simpa only [update_of_ne other] using device⟩
  bound i small driven := by
    obtain ⟨taken, address⟩ := linked.bound i small driven
    have other : (h.interfaces i).deviceIndex ≠ d := fun same => lonely i ⟨small, taken, same⟩
    exact ⟨taken, by simpa only [update_of_ne other] using address⟩
  endpoint := linked.endpoint

def Spared (c : Config) (p : Nat) (h : Host) : Prop :=
  h.enumeration.isActive = true → h.enumeration.port ≠ p → Enumerated c h

theorem enumerated_quiet : Quiet (Enumerated c) where
  transfers _ _ e := ⟨e.1, e.2, e.3, e.4, e.5, e.6, e.7⟩
  hid _ _ e := ⟨e.1, e.2, e.3, e.4, e.5, e.6, e.7⟩
  msc _ _ e := ⟨e.1, e.2, e.3, e.4, e.5, e.6, e.7⟩
  log _ _ _ e := ⟨e.1, e.2, e.3, e.4, e.5, e.6, e.7⟩

theorem spared_quiet : Quiet (Spared c p) where
  transfers h x spared active other := enumerated_quiet.transfers h x (spared active other)
  hid h x spared active other := enumerated_quiet.hid h x (spared active other)
  msc h x spared active other := enumerated_quiet.msc h x (spared active other)
  log h r outward spared active other := enumerated_quiet.log h r outward (spared active other)

theorem Enumerated.withInterface (enumerated : Enumerated c h) (i : Nat) (x : Interface)
    (undriven : x.classDriver = none) :
    Enumerated c { h with interfaces := update h.interfaces i x } := by
  refine ⟨enumerated.1, enumerated.2, enumerated.3, enumerated.4, enumerated.5, enumerated.6, fun j small => ?_⟩
  by_cases same : j = i
  · subst same
    simpa only [update_self] using fun _ => undriven
  · simpa only [update_of_ne same] using enumerated.undriven j small

theorem classUnbindDevice_spared : Keeps (Spared c p) (classUnbindDevice c hcd d) := by
  refine .bind .read fun h => .bind .reject fun _ => .bind .reject fun _ => .forEach
    fun i => .bind .read fun interface => ?_
  split
  · exact .pure
  · refine .onlyIf (.bind (classStop_keeps spared_quiet).attempt fun _ => .bind (.modify fun h spared active other => ?_) fun _ => .finish)
    exact (spared active other).withInterface i _ rfl

def Host.released (c : Config) (h : Host) (d address : Nat) (log : List Record) : Host :=
  { h with
    transfers := fun t =>
      if t < c.maxTransfers ∧ (h.transfers t).isAllocated = true ∧ (h.transfers t).deviceAddress = address then .zero
      else h.transfers t,
    interfaces := fun i => if h.InterfaceOf c d i then .zero else h.interfaces i,
    endpoints := fun e => if h.EndpointOf c d e then .zero else h.endpoints e,
    rootPorts := fun p =>
      if p < h.rootPortCount ∧ (h.rootPorts p).hasDevice = true ∧ (h.rootPorts p).deviceIndex = d then
        { h.rootPorts p with hasDevice := false, deviceIndex := 0 }
      else h.rootPorts p,
    devices := update h.devices d .zero, log := log }

theorem deviceRelease_effect (hcd : Hcd) (up : Up n h) (small : d < c.maxDevices)
    (allocated : (h.devices d).isAllocated = true) :
    ∃ log, deviceRelease c hcd d h =
      (.ok (), (classUnbindDevice c hcd d h).2.released c d (h.devices d).address log) := by
  have upUnbound : Up n (classUnbindDevice c hcd d h).2 := (classUnbindDevice_keeps up_remote.toApart).after up
  obtain ⟨log, run⟩ := releaseTransfers_effect c hcd upUnbound (h.devices d).address
  refine ⟨log, ?_⟩
  rw [deviceRelease, bind_ok _ (ready_up up), read_bind, reject_bind_neg _ (by simp [small, allocated]), ignore_bind, id_eq,
    bind_ok _ run, bind_ok _ (releaseInterfaces_effect d _)]
  rfl

theorem classUnbindDevice_same (c : Config) (hcd : Hcd) (d : Nat) (h : Host) :
    (classUnbindDevice c hcd d h).2.devices = h.devices ∧ (classUnbindDevice c hcd d h).2.rootPorts = h.rootPorts ∧
      (classUnbindDevice c hcd d h).2.enumeration = h.enumeration := by
  have apart : Apart fun h₁ => h₁.devices = h.devices ∧ h₁.rootPorts = h.rootPorts ∧ h₁.enumeration = h.enumeration :=
    ⟨⟨fun _ _ a => a, fun _ _ a => a, fun _ _ a => a, fun _ _ _ a => a⟩, fun _ _ a => a, fun _ _ a => a⟩
  exact (classUnbindDevice_keeps apart).after ⟨rfl, rfl, rfl⟩

theorem Linked.released (linked : Linked c n h) (d address : Nat) (log : List Record) :
    Linked c n (h.released c d address log) := by
  have lonely : ∀ i, ¬(h.released c d address log).InterfaceOf c d i := by
    rintro i ⟨small, taken, index⟩
    by_cases gone : h.InterfaceOf c d i
    · simp [Host.released, gone, Interface.zero] at taken
    · simp only [Host.released, if_neg gone] at taken index
      exact gone ⟨small, taken, index⟩
  have bare := (((linked.interfacesReleased d).withPorts (h.released c d address log).rootPorts).withTransfers
    (h.released c d address log).transfers log).deviceFreed (d := d) lonely
  exact bare

theorem Spared.released (spared : Spared c p h) (port : (h.devices d).port = p) (address : Nat) (log : List Record) :
    Spared c p (h.released c d address log) := by
  intro active other
  have e := spared active other
  have apart : h.enumeration.deviceIndex ≠ d := by
    rintro same
    have place := e.port
    rw [Host.enumerated, same, port] at place
    exact other place.symm
  have here : (h.released c d address log).enumerated = h.enumerated := update_of_ne apart ..
  refine ⟨e.1, ⟨e.2.1, by rw [here]; exact e.2.2⟩, e.3, by rw [here]; exact e.4, e.5, by rw [here]; exact e.6, fun i small of => ?_⟩
  by_cases gone : h.InterfaceOf c d i
  · simp [Host.released, gone, Interface.zero]
  · simp only [Host.released, if_neg gone] at of ⊢
    exact e.undriven i small of

theorem deviceRelease_spared :
    Triple (fun h => (Linked c n h ∧ Spared c p h) ∧ d < c.maxDevices ∧ (h.devices d).isAllocated = true ∧ (h.devices d).port = p)
      (deviceRelease c hcd d) (fun _ h => Linked c n h ∧ Spared c p h) fun _ _ => False := by
  rintro h ⟨⟨linked, spared⟩, small, allocated, port⟩
  obtain ⟨log, run⟩ := deviceRelease_effect hcd linked.up small allocated
  obtain ⟨devices, -, -⟩ := classUnbindDevice_same c hcd d h
  rw [run]
  exact ⟨(classUnbindDevice_linked.after linked).released .., (classUnbindDevice_spared.after spared).released (by rw [devices, port]) _ _⟩

structure Wired (c : Config) (n : Nat) (h : Host) : Prop where
  linked : Linked c n h
  enumerated : h.enumeration.isActive = true → Enumerated c h

theorem wired_quiet : Quiet (Wired c n) where
  transfers h x wired := ⟨linked_quiet.transfers h x wired.1, fun active => enumerated_quiet.transfers h x (wired.2 active)⟩
  hid h x wired := ⟨linked_quiet.hid h x wired.1, fun active => enumerated_quiet.hid h x (wired.2 active)⟩
  msc h x wired := ⟨linked_quiet.msc h x wired.1, fun active => enumerated_quiet.msc h x (wired.2 active)⟩
  log h r out wired := ⟨linked_quiet.log h r out wired.1, fun active => enumerated_quiet.log h r out (wired.2 active)⟩

theorem updatePort_wired {f : RootPort → RootPort} : Keeps (Wired c n) (updatePort p f) :=
  .modify fun _ wired => ⟨wired.1.withPorts _, fun active =>
    let e := wired.2 active
    ⟨e.1, e.2, e.3, e.4, e.5, e.6, e.7⟩⟩

theorem Wired.inactive (linked : Linked c n h) (inactive : h.enumeration.isActive = false) : Wired c n h :=
  ⟨linked, fun active => by simp [inactive] at active⟩

theorem enumerationProcess_wired : Keeps (Wired c n) (enumerationProcess c hcd p) := by
  refine .intro fun h wired => ?_
  by_cases elsewhere : portIsValid h p = false ∨ h.enumeration.port ≠ p
  · simp only [enumerationProcess, read_bind, id_eq]
    rw [reject_bind_pos _ elsewhere]
    exact wired
  · have here : h.enumeration.port = p := by
      simp only [not_or, not_not] at elsewhere
      exact elsewhere.2
    by_cases active : h.enumeration.isActive = true
    · subst here
      have enumerated := wired.2 active
      have step := enumerationProcess_step hcd wired.1.up enumerated active
      exact ⟨step.linked wired.1 enumerated, step.enumerated wired.1 enumerated⟩
    · simp only [enumerationProcess, read_bind, id_eq]
      rw [reject_bind_neg _ elsewhere, if_pos (by simpa using active)]
      exact wired

def Enumeration.fresh (p d t : Nat) : Enumeration :=
  { Enumeration.zero with
    isActive := true, hasTransfer := true, port := p, deviceIndex := d, transferIndex := t,
    assignedAddress := (d + 1) % 2 ^ 8, state := .getDeviceHeaderSubmit }

def Host.begun (h : Host) (p d t : Nat) : Host :=
  { h with
    devices := update h.devices d { Device.attachedTo p with speed := (h.rootPorts p).speed },
    transfers := update h.transfers t { Transfer.zero with isAllocated := true },
    rootPorts := update h.rootPorts p { h.rootPorts p with hasDevice := true, deviceIndex := d },
    enumeration := .fresh p d t }

theorem enumerationStart_effect (c : Config) (hcd : Hcd) (up : Up n h) (p : Nat) :
    (∃ d t, p < n ∧ h.enumeration.isActive = false ∧ d < c.maxDevices ∧ (h.devices d).isAllocated = false ∧
      t < c.maxTransfers ∧ (h.transfers t).isAllocated = false ∧ enumerationStart c hcd p h = (.ok (), h.begun p d t)) ∨
    (∃ e, enumerationStart c hcd p h = (.error e, h)) ∨
    ∃ e d, p < n ∧ h.enumeration.isActive = false ∧ d < c.maxDevices ∧ (h.devices d).isAllocated = false ∧
      (∀ t < c.maxTransfers, (h.transfers t).isAllocated = true) ∧ enumerationStart c hcd p h =
        (.error e, (deviceRelease c hcd d { h with devices := update h.devices d (.attachedTo p) }).2) := by
  simp only [enumerationStart, read_bind, id_eq]
  by_cases bad : portIsValid h p = false
  · rw [reject_bind_pos _ bad]
    exact .inr (.inl ⟨_, rfl⟩)
  · rw [reject_bind_neg _ bad]
    by_cases active : h.enumeration.isActive = true
    · rw [reject_bind_pos _ active]
      exact .inr (.inl ⟨_, rfl⟩)
    · rw [reject_bind_neg _ active]
      have inactive : h.enumeration.isActive = false := by simpa using active
      rcases deviceAllocate_effect c up p with ⟨d, valid, small, free, run⟩ | ⟨e, run⟩
      · rw [bind_ok _ run]
        let taken : Host := { h with devices := update h.devices d (.attachedTo p) }
        have upTaken : Up n taken := up.frame rfl
        rcases transferAllocate_effect c upTaken with ⟨t, smallSlot, freeSlot, slot⟩ | ⟨slot, full⟩
        · refine .inl ⟨d, t, valid, inactive, small, free, smallSlot, freeSlot, ?_⟩
          rw [bind_ok _ (onError_ok _ slot)]
          simp only [updateDevice, updatePort, updateEnum, enumStateSet, modify_bind, modify_run, taken, update_self,
            Function.update_idem]
          rfl
        · refine .inr (.inr ⟨.resourceExhausted, d, valid, inactive, small, free, full, ?_⟩)
          rw [bind_error _ (onError_error _ slot)]
      · rw [bind_error _ run]
        exact .inr (.inl ⟨e, rfl⟩)

theorem Linked.begun {d t : Nat} (linked : Linked c n h) (free : (h.devices d).isAllocated = false) :
    Linked c n (h.begun p d t) :=
  (((linked.deviceTaken (d := d) { Device.attachedTo p with speed := (h.rootPorts p).speed } free rfl rfl).withTransfers _
    h.log).withPorts _).withEnumeration _

theorem enumerationStart_wired : Keeps (Wired c n) (enumerationStart c hcd p) := by
  refine .intro fun h wired => ?_
  rcases enumerationStart_effect c hcd wired.1.up p with
    ⟨d, t, valid, -, small, free, -, -, run⟩ | ⟨e, run⟩ | ⟨e, d, -, inactive, small, free, -, run⟩
  · rw [run]
    refine ⟨wired.1.begun free, fun _ => ?_⟩
    have low := c.devices_small
    have index : (h.begun p d t).enumeration.deviceIndex = d := rfl
    have here : (h.begun p d t).enumerated = { Device.attachedTo p with speed := (h.rootPorts p).speed } :=
      update_self ..
    refine ⟨rfl, ⟨small, by rw [here]; rfl⟩, ?_, by rw [here]; rfl, ?_, by rw [here]; rfl, fun i low of => ?_⟩
    · rw [← wired.1.up.ports] at valid
      exact valid
    · change (d + 1) % 2 ^ 8 = d + 1
      omega
    · by_contra driven
      obtain ⟨taken, -⟩ := wired.1.bound i low driven
      obtain ⟨-, allocated⟩ := wired.1.interface i low taken
      rw [show (h.interfaces i).deviceIndex = d from of, free] at allocated
      cases allocated
  · rw [run]
    exact wired
  · rw [run]
    have taken := wired.1.deviceTaken (Device.attachedTo p) free rfl rfl
    obtain ⟨log, released⟩ := deviceRelease_effect hcd (d := d) taken.up small (by simp [Device.attachedTo])
    rw [released]
    obtain ⟨-, -, record⟩ := classUnbindDevice_same c hcd d { h with devices := update h.devices d (.attachedTo p) }
    refine .inactive ((classUnbindDevice_linked.after taken).released ..) ?_
    change (classUnbindDevice c hcd d { h with devices := update h.devices d (.attachedTo p) }).2.enumeration.isActive = false
    rw [record]
    exact inactive

/- The ports. -/

theorem enumerationAbort_effect (c : Config) (hcd : Hcd) (up : Up n h) (valid : p < n) :
    enumerationAbort c hcd p h = (.ok (), h) ∧ h.enumeration.port ≠ p ∨
      h.enumeration.port = p ∧ ∃ transfers log, enumerationAbort c hcd p h =
        (.ok (), { h with enumeration := .zero, transfers := transfers, log := log }) ∧ GivenUp c hcd h transfers := by
  simp only [enumerationAbort, read_bind, id_eq]
  by_cases elsewhere : h.enumeration.port ≠ p
  · rw [if_pos (.inr elsewhere)]
    exact .inl ⟨rfl, elsewhere⟩
  · have here : h.enumeration.port = p := by simpa using elsewhere
    obtain ⟨r, transfers, log, run, given⟩ := enumTransferRelease_effect c hcd up
    refine .inr ⟨here, transfers, log, ?_, given⟩
    rw [if_neg (by simp [portIsValid, up.ports, valid, here]), ignore_bind, run]
    rfl

theorem portDisconnectCleanup_wired : Keeps (Wired c n) (portDisconnectCleanup c hcd p) := by
  refine .intro fun h wired => ?_
  rw [portDisconnectCleanup, bind_ok _ (ready_up wired.1.up), read_bind, id_eq]
  by_cases bad : portIsValid h p = false
  · rw [reject_bind_pos _ bad]
    exact wired
  · rw [reject_bind_neg _ bad]
    have valid : p < n := by simpa [portIsValid, wired.1.up.ports] using bad
    refine Triple.always (P := fun h => Linked c n h ∧ Spared c p h) ?_ ⟨wired.1, fun active _ => wired.2 active⟩
    refine .bind (R := fun _ h => Linked c n h ∧ Spared c p h) ?_
      fun _ => .bind (R := fun _ => Wired c n) ?_ fun _ => updatePort_wired
    · refine Triple.forEach (I := fun _ h => Linked c n h ∧ Spared c p h) fun d _ small => Triple.readThen fun device =>
        Triple.onlyIf (fun chosen => ?_) fun _ both _ => both.2
      refine Triple.weaken deviceRelease_spared (fun h both => ?_) (fun _ _ done => done) fun _ _ => False.elim
      obtain ⟨rfl, kept⟩ := both
      exact ⟨kept, by omega, chosen⟩
    · rintro h ⟨linked, spared⟩
      rcases enumerationAbort_effect c hcd linked.up valid with ⟨run, other⟩ | ⟨-, transfers, log, run, -⟩
      · rw [run]
        exact ⟨linked, fun active => spared active other⟩
      · rw [run]
        exact .inactive ((linked.withEnumeration .zero).withTransfers transfers log) rfl

theorem rootPortProcess_wired : Keeps (Wired c n) (rootPortProcess c hcd p) := by
  have asks {α : Type} {r : Record} {answer : List Record → Except Error α} (outward : r.Outward) :
      Keeps (Wired c n) (portAsk p (ask r answer)) :=
    .onError (ask_keeps wired_quiet outward) fun _ => updatePort_wired
  refine .bind .read fun h => ?_
  split
  · exact .bind (asks fun _ => by simp) fun _ => .bind .read fun _ => .ite (fun _ => updatePort_wired) fun _ =>
      .ite (fun _ => portDisconnectCleanup_wired) fun _ => .ite (fun _ => updatePort_wired) fun _ =>
        .bind (asks fun _ => by simp) fun _ => updatePort_wired
  · exact .bind (asks fun _ => by simp) fun _ => updatePort_wired
  · exact .bind .read fun _ => .ite (fun _ => .pure) fun _ => .bind (asks fun _ => by simp) fun _ =>
      .ite (fun _ => portDisconnectCleanup_wired) fun _ => .ite (fun _ => updatePort_wired) fun _ => updatePort_wired
  · exact .bind (.onError enumerationStart_wired fun _ => updatePort_wired) fun _ => updatePort_wired
  · exact enumerationProcess_wired
  · exact enumerationProcess_wired
  · exact .pure

theorem rootPortStep_wired : Keeps (Wired c n) (rootPortStep c hcd p) := by
  refine .bind (.modify fun h wired => ⟨wired.1.withTransfers h.transfers _, fun active => ?_⟩)
    fun _ => rootPortProcess_wired
  have e := wired.2 active
  exact ⟨e.1, e.2, e.3, e.4, e.5, e.6, e.7⟩

theorem hcdPortEventHandle_wired {event : PortEvent} : Keeps (Wired c n) (hcdPortEventHandle c hcd p event) := by
  refine .bind .read fun h => .ite (fun _ => .pure) fun _ => ?_
  split
  · exact Keeps.ignore <| .bind .read fun _ => .bind .reject fun _ => .ite (fun _ => .pure) fun _ =>
      .bind updatePort_wired fun _ => updatePort_wired
  · exact portDisconnectCleanup_wired.ignore
  · exact Keeps.ignore <| .bind .read fun _ => .bind .reject fun _ => updatePort_wired
  · exact Keeps.ignore <| .bind .read fun _ => .bind .reject fun _ => updatePort_wired
  · exact Keeps.ignore <| .bind .read fun _ => .bind .reject fun _ => .onlyIf updatePort_wired
  · exact Keeps.ignore <| .bind .read fun _ => .bind .reject fun _ => updatePort_wired

theorem hcdTransferEvent_wired {t length : Nat} {event : TransferEvent} {bytes : List UInt8} :
    Keeps (Wired c n) (hcdTransferEvent c hcd t event length bytes) :=
  hcdTransferEvent_frame wired_quiet fun _ _ wired => ⟨wired.1.withBuffer _, fun active =>
    let e := wired.2 active
    ⟨e.1, e.2, e.3, e.4, e.5, e.6, e.7⟩⟩

theorem call_wired (op : Op) : Keeps (Wired c n) (call c hcd op) := by
  cases op with
  | process =>
    exact .bind .read fun _ => .bind .reject fun _ => .bind .reject fun _ => .bind .read fun _ =>
      .forEach fun p => rootPortStep_wired
  | portEvent p event => exact hcdPortEventHandle_wired
  | transferEvent t event n bytes => exact hcdTransferEvent_wired
  | mscReadBlocks lun lba count buffer length => exact mscBlockOperationStart_keeps wired_quiet
  | mscWriteBlocks lun lba count buffer length => exact mscBlockOperationStart_keeps wired_quiet
  | mscInquiry lun buffer length =>
    exact .bind .reject fun _ => .bind .reject fun _ => mscScsiCommandStart_keeps wired_quiet
  | mscReadCapacity lun capacity => exact mscReadCapacity_keeps wired_quiet
  | mscTestUnitReady lun => exact mscScsiCommandStart_keeps wired_quiet
  | mscRequestSense lun buffer length =>
    exact .bind .reject fun _ => .bind .reject fun _ => mscScsiCommandStart_keeps wired_quiet
  | mscResetRecovery lun => exact mscResetRecovery_keeps wired_quiet

theorem Booted.wired (booted : Booted c hcd n h) : Wired c n h := by
  obtain ⟨-, drivers, rfl⟩ := booted.eq
  refine .inactive ⟨⟨rfl, rfl, rfl, rfl⟩, ?_, ?_, ?_, ?_⟩ rfl
  · intro d _ allocated
    cases allocated
  · intro i _ taken
    cases taken
  · intro i _ driven
    exact absurd rfl driven
  · intro e _ taken
    cases taken

theorem run_wired {start : Host} {trace : List (Transition Host Op (Except Error Unit))} (booted : Booted c hcd n start)
    (run : (machine c hcd).Run start trace h) : Wired c n h :=
  run.invariant booted.wired fun _ op wired _ => (call_wired op).after wired

end XSDK.Usbh
