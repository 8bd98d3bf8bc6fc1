import XSDK.Usbh.Effects

/-! How the slots of a started host refer to each other: endpoints to interfaces, interfaces
to devices, and the enumeration record to its device. -/
namespace XSDK.Usbh

open Library Library.Call
open Function (update update_self update_of_ne)

variable {c : Config} {hcd : Hcd} {n d i : Nat} {h : Host}

structure Linked (c : Config) (n : Nat) (h : Host) : Prop where
  up : Up n h
  device : ∀ d < c.maxDevices, (h.devices d).isAllocated = true → (h.devices d).address = 0 ∨
    (h.devices d).address = d + 1
  interface : ∀ i < c.maxInterfaces, (h.interfaces i).isAllocated = true →
    (h.interfaces i).deviceIndex < c.maxDevices ∧ (h.devices (h.interfaces i).deviceIndex).isAllocated = true
  bound : ∀ i < c.maxInterfaces, (h.interfaces i).classDriver ≠ none →
    (h.interfaces i).isAllocated = true ∧ (h.devices (h.interfaces i).deviceIndex).address ≠ 0
  endpoint : ∀ e < c.maxEndpoints, (h.endpoints e).isAllocated = true →
    (h.endpoints e).endpointAddress % 16 ≠ 0 ∧
      h.InterfaceOf c (h.endpoints e).deviceIndex (h.endpoints e).interfaceIndex

theorem Linked.frame {h' : Host} (linked : Linked c n h)
    (same : (h'.isInitialized, h'.isStarted, h'.hasHcd, h'.rootPortCount, h'.devices, h'.interfaces, h'.endpoints) =
      (h.isInitialized, h.isStarted, h.hasHcd, h.rootPortCount, h.devices, h.interfaces, h.endpoints)) :
    Linked c n h' := by
  simp only [Prod.mk.injEq] at same
  obtain ⟨initialized, started, hcd, ports, devices, interfaces, endpoints⟩ := same
  obtain ⟨up, device, interface, bound, endpoint⟩ := linked
  refine ⟨up.frame (by rw [initialized, started, hcd, ports]), ?_, ?_, ?_, ?_⟩
  · rwa [devices]
  · rwa [devices, interfaces]
  · rwa [devices, interfaces]
  · simpa only [endpoints, Host.InterfaceOf, interfaces] using endpoint

theorem linked_quiet : Quiet (Linked c n) where
  transfers _ _ linked := linked.frame rfl
  hid _ _ linked := linked.frame rfl
  msc _ _ linked := linked.frame rfl
  log _ _ _ linked := linked.frame rfl

namespace Linked

variable (linked : Linked c n h)
include linked

theorem withPorts (x : Nat → RootPort) : Linked c n { h with rootPorts := x } :=
  linked.frame rfl

theorem withEnumeration (x : Enumeration) : Linked c n { h with enumeration := x } :=
  linked.frame rfl

theorem withBuffer (x : Nat → UInt8) : Linked c n { h with controlBuffer := x } :=
  linked.frame rfl

theorem withDevice (x : Device) (allocated : (h.devices d).isAllocated = true → x.isAllocated = true)
    (address : x.isAllocated = true → x.address = 0 ∨ x.address = d + 1)
    (kept : (h.devices d).isAllocated = true → (h.devices d).address ≠ 0 → x.address ≠ 0) :
    Linked c n { h with devices := update h.devices d x } where
  up := linked.up.frame rfl
  device d' small := by
    by_cases same : d' = d
    · subst same
      simpa only [update_self] using address
    · simpa only [update_of_ne same] using linked.device d' small
  interface i small taken := by
    obtain ⟨low, device⟩ := linked.interface i small taken
    refine ⟨low, ?_⟩
    by_cases same : (h.interfaces i).deviceIndex = d
    · simpa only [same, update_self] using allocated (same ▸ device)
    · simpa only [update_of_ne same] using device
  bound i small driven := by
    obtain ⟨taken, address⟩ := linked.bound i small driven
    refine ⟨taken, ?_⟩
    by_cases same : (h.interfaces i).deviceIndex = d
    · simpa only [same, update_self] using kept (same ▸ (linked.interface i small taken).2) (same ▸ address)
    · simpa only [update_of_ne same] using address
  endpoint := linked.endpoint

theorem interfaceTaken (x : Interface) (free : (h.interfaces i).isAllocated = false)
    (device : x.deviceIndex < c.maxDevices ∧ (h.devices x.deviceIndex).isAllocated = true)
    (undriven : x.classDriver = none) :
    Linked c n { h with interfaces := update h.interfaces i x } where
  up := linked.up.frame rfl
  device := linked.device
  interface j small := by
    by_cases same : j = i
    · subst same
      simpa only [update_self] using fun _ => device
    · simpa only [update_of_ne same] using linked.interface j small
  bound j small := by
    by_cases same : j = i
    · subst same
      simp [undriven]
    · simpa only [update_of_ne same] using linked.bound j small
  endpoint e small taken := by
    obtain ⟨address, low, allocated, index⟩ := linked.endpoint e small taken
    have other : (h.endpoints e).interfaceIndex ≠ i := by
      rintro same
      rw [same, free] at allocated
      cases allocated
    exact ⟨address, low, by simpa only [update_of_ne other] using ⟨allocated, index⟩⟩

theorem interfaceChanged (x : Interface)
    (allocated : x.isAllocated = (h.interfaces i).isAllocated) (device : x.deviceIndex = (h.interfaces i).deviceIndex)
    (driven : x.classDriver ≠ none → (h.interfaces i).classDriver ≠ none ∨
      (h.interfaces i).isAllocated = true ∧ (h.devices (h.interfaces i).deviceIndex).address ≠ 0) :
    Linked c n { h with interfaces := update h.interfaces i x } where
  up := linked.up.frame rfl
  device := linked.device
  interface j small := by
    by_cases same : j = i
    · subst same
      simpa only [update_self, allocated, device] using linked.interface j small
    · simpa only [update_of_ne same] using linked.interface j small
  bound j small := by
    by_cases same : j = i
    · subst same
      simp only [update_self, allocated, device]
      intro some
      rcases driven some with before | now
      · exact linked.bound j small before
      · exact now
    · simpa only [update_of_ne same] using linked.bound j small
  endpoint e small taken := by
    obtain ⟨address, low, rest⟩ := linked.endpoint e small taken
    refine ⟨address, low, ?_⟩
    by_cases same : (h.endpoints e).interfaceIndex = i
    · rw [same] at rest ⊢
      simpa only [update_self, allocated, device] using rest
    · simpa only [update_of_ne same] using rest

theorem endpointFilled {e : Nat} (x : Endpoint)
    (address : x.endpointAddress % 16 ≠ 0) (interface : h.InterfaceOf c x.deviceIndex x.interfaceIndex) :
    Linked c n { h with endpoints := update h.endpoints e x } where
  up := linked.up.frame rfl
  device := linked.device
  interface := linked.interface
  bound := linked.bound
  endpoint e' small := by
    by_cases same : e' = e
    · subst same
      simpa only [update_self] using fun _ => ⟨address, interface⟩
    · simp only [update_of_ne same]
      exact linked.endpoint e' small

theorem interfacesReleased (d : Nat) :
    Linked c n { h with
      interfaces := fun i => if h.InterfaceOf c d i then .zero else h.interfaces i,
      endpoints := fun e => if h.EndpointOf c d e then .zero else h.endpoints e } where
  up := linked.up.frame rfl
  device := linked.device
  interface i small := by
    by_cases gone : h.InterfaceOf c d i
    · simp [gone, Interface.zero]
    · simpa only [if_neg gone] using linked.interface i small
  bound i small := by
    by_cases gone : h.InterfaceOf c d i
    · simp [gone, Interface.zero]
    · simpa only [if_neg gone] using linked.bound i small
  endpoint e small := by
    by_cases gone : h.EndpointOf c d e
    · simp [gone, Endpoint.zero]
    · simp only [if_neg gone]
      intro taken
      obtain ⟨address, low, rest⟩ := linked.endpoint e small taken
      have kept : ¬h.InterfaceOf c d (h.endpoints e).interfaceIndex := fun of => gone ⟨small, taken, of⟩
      exact ⟨address, low, by simpa only [if_neg kept] using rest⟩

end Linked

/- The calls. -/

theorem interfaceAllocate_effect (up : Up n h) (d : Nat) :
    (∃ i, (h.interfaces i).isAllocated = false ∧ (d < c.maxDevices ∧ (h.devices d).isAllocated = true) ∧
      interfaceAllocate c d h =
        (.ok i, { h with interfaces := update h.interfaces i { Interface.zero with isAllocated := true, deviceIndex := d } })) ∨
    ∃ e, interfaceAllocate c d h = (.error e, h) := by
  rw [interfaceAllocate, bind_ok _ (ready_up up), read_bind, id_eq]
  by_cases bad : c.maxDevices ≤ d ∨ (h.devices d).isAllocated = false
  · rw [reject_bind_pos _ bad]
    exact .inr ⟨_, rfl⟩
  · rw [reject_bind_neg _ bad]
    rcases found : firstFree c.maxInterfaces fun i => (h.interfaces i).isAllocated with _ | i
    · exact .inr ⟨_, rfl⟩
    · exact .inl ⟨i, (firstFree_some found).2, by simpa [not_or] using bad, rfl⟩

def Endpoint.takenFor (endpoint : Endpoint) (i d : Nat) : Endpoint :=
  { endpoint with isAllocated := true, deviceIndex := d, interfaceIndex := i }

theorem endpointAllocate_effect (up : Up n h) (i : Nat) :
    (∃ e, (i < c.maxInterfaces ∧ (h.interfaces i).isAllocated = true) ∧
      endpointAllocate c i h =
        (.ok e, { h with endpoints := update h.endpoints e (Endpoint.zero.takenFor i (h.interfaces i).deviceIndex) })) ∨
    ∃ e, endpointAllocate c i h = (.error e, h) := by
  rw [endpointAllocate, bind_ok _ (ready_up up), read_bind, id_eq]
  by_cases bad : c.maxInterfaces ≤ i ∨ (h.interfaces i).isAllocated = false
  · rw [reject_bind_pos _ bad]
    exact .inr ⟨_, rfl⟩
  · rw [reject_bind_neg _ bad]
    rcases found : firstFree c.maxEndpoints fun e => (h.endpoints e).isAllocated with _ | e
    · exact .inr ⟨_, rfl⟩
    · exact .inl ⟨e, by simpa [not_or] using bad, rfl⟩

theorem releaseInterfaces_linked : Keeps (Linked c n) (releaseInterfacesForDevice c d) := by
  intro h linked
  rw [releaseInterfaces_effect]
  exact linked.interfacesReleased d

variable {parser : TopologyParse} {length : Nat} {buffer : Nat → UInt8} {data : Nat → UInt8}

theorem topologyInterfaceStore_linked : Keeps (Linked c n) (topologyInterfaceStore c d data length parser) := by
  refine .bind topologyCurrentInterfaceFinish_keeps fun _ => .bind .finish fun _ => .ite (fun _ => .pure) fun _ => ?_
  intro h linked
  rcases interfaceAllocate_effect (c := c) linked.up d with ⟨i, free, device, run⟩ | ⟨e, run⟩
  · rw [bind_ok _ run, updateInterface, modify_bind, pure_run]
    simp only [update_self, Function.update_idem]
    exact linked.interfaceTaken _ free device rfl
  · rw [bind_error _ run]
    exact linked

theorem topologyEndpointStore_linked : Keeps (Linked c n) (topologyEndpointStore c d data length parser) := by
  refine .bind .read fun h => ?_
  split
  · exact .ite (fun _ => .pure) fun _ => .fail
  · next i _ =>
    refine .bind .reject fun _ => .bind .finish
      fun descriptor => Triple.rejectThen (fun _ _ linked => linked) fun good => ?_
    have valid : descriptor.endpointAddress % 16 ≠ 0 := by
      simp only [endpointAddressIsValid] at good
      simp only [not_or, Bool.not_eq_false, decide_eq_true_eq] at good
      exact good.1.1
    intro h linked
    rcases endpointAllocate_effect (c := c) linked.up i with ⟨e, interface, run⟩ | ⟨e, run⟩
    · rw [bind_ok _ run, updateEndpoint, modify_bind, updateInterface, modify_bind, pure_run]
      simp only [update_self, Function.update_idem]
      refine (linked.endpointFilled (e := e) _ ?_ ?_).interfaceChanged _ rfl rfl .inl
      · exact valid
      · exact ⟨interface.1, interface.2, rfl⟩
    · rw [bind_error _ run]
      exact linked

theorem topologyWalk_linked {length fuel offset : Nat} :
    Keeps (Linked c n) (topologyWalk c d buffer length fuel offset parser) := by
  induction fuel generalizing offset parser with
  | zero => exact .pure
  | succ fuel ih =>
    refine .ite (fun _ => .pure) fun _ => .bind .finish fun _ => .bind ?_ fun _ => ih
    exact .ite (fun _ => topologyInterfaceStore_linked)
      fun _ => .ite (fun _ => topologyEndpointStore_linked) fun _ => .pure

theorem deviceBuildTopology_linked : Keeps (Linked c n) (deviceBuildTopology c d buffer length) :=
  .bind ready_keeps fun _ => .bind .read fun _ => .bind .reject fun _ => .bind .finish fun _ =>
    .bind releaseInterfaces_linked fun _ =>
      .onError (.bind topologyWalk_linked fun _ => .bind topologyCurrentInterfaceFinish_keeps fun _ => .reject)
        fun _ => releaseInterfaces_linked

theorem classUnbindDevice_linked : Keeps (Linked c n) (classUnbindDevice c hcd d) := by
  refine .bind .read fun h => .bind .reject fun _ => .bind .reject fun _ => .forEach
    fun i => .bind .read fun interface => ?_
  split
  · exact .pure
  · refine .onlyIf (.bind (classStop_keeps linked_quiet).attempt fun _ => .bind (.modify fun h linked => ?_) fun _ => .finish)
    exact linked.interfaceChanged { h.interfaces i with classDriver := none } rfl rfl fun some => absurd rfl some

theorem classBindDevice_linked :
    Keeps (fun h => Linked c n h ∧ (h.devices d).address ≠ 0) (classBindDevice c hcd d) := by
  have quiet : Quiet fun h => Linked c n h ∧ (h.devices d).address ≠ 0 :=
    ⟨fun h x both => ⟨linked_quiet.transfers h x both.1, both.2⟩, fun h x both => ⟨linked_quiet.hid h x both.1, both.2⟩,
      fun h x both => ⟨linked_quiet.msc h x both.1, both.2⟩, fun h r out both => ⟨linked_quiet.log h r out both.1, both.2⟩⟩
  have apart : Apart fun h => (h.devices d).address ≠ 0 :=
    ⟨⟨fun _ _ a => a, fun _ _ a => a, fun _ _ a => a, fun _ _ _ a => a⟩, fun _ _ a => a, fun _ _ a => a⟩
  have unbound : Keeps (fun h => Linked c n h ∧ (h.devices d).address ≠ 0) (classUnbindDevice c hcd d) :=
    Triple.and classUnbindDevice_linked (classUnbindDevice_keeps apart)
  refine .bind .read fun _ => .bind .reject fun _ => .bind .reject fun _ => .forEach fun i => ?_
  refine Triple.readThen fun interface => ?_
  refine Triple.onlyIf (fun chosen => ?_) fun h both _ => both.2
  refine Triple.onError (R := fun _ h => Linked c n h ∧ (h.devices d).address ≠ 0) ?_ fun _ => unbound
  -- The class starts without touching the interface, which is then bound.
  have still : Quiet fun h => h.interfaces i = interface ∧ Linked c n h ∧ (h.devices d).address ≠ 0 :=
    ⟨fun h x all => ⟨all.1, quiet.transfers h x all.2⟩, fun h x all => ⟨all.1, quiet.hid h x all.2⟩,
      fun h x all => ⟨all.1, quiet.msc h x all.2⟩, fun h r out all => ⟨all.1, quiet.log h r out all.2⟩⟩
  refine Triple.readThen fun h' => Triple.rejectThen (fun _ h all => all.2.2) fun _ => ?_
  split
  · exact .pure fun h all => all.2.2
  · next driver _ _ =>
    refine Triple.bind (R := fun _ h => h.interfaces i = interface ∧ Linked c n h ∧ (h.devices d).address ≠ 0) ?_ fun _ => ?_
    · exact Triple.weaken (classStart_keeps still) (fun h all => all.2) (fun _ _ all => all) fun _ _ all => all.2
    · refine .modify fun h all => ?_
      obtain ⟨rfl, linked, address⟩ := all
      exact ⟨linked.interfaceChanged _ rfl rfl fun _ => .inr ⟨chosen.1, chosen.2 ▸ address⟩, address⟩

end XSDK.Usbh
