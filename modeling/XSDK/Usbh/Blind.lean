import XSDK.Usbh.Core

/-! What does not look at the control buffer, and how far the enumeration looks into it. -/
namespace XSDK.Usbh

open Library Library.Call

variable {c : Config} {hcd : Hcd} {b : Nat → UInt8}

def Host.showing (b : Nat → UInt8) (h : Host) : Host := { h with controlBuffer := b }

theorem ready_blind : Commutes (Host.showing b) contextReadyForRuntimeSlots := .readThen (fun _ => rfl) fun _ => .reject

theorem ask_blind {α : Type} {r : Record} {answer : List Record → Except Error α} :
    Commutes (Host.showing b) (ask r answer) :=
  .readThen (fun _ => rfl) fun _ => .bind .reject fun _ => .bind (.modify fun _ => rfl) fun _ => .finish

variable {header : DescriptorHeader} {parser : TopologyParse} {d t : Nat}

theorem transferCancelIfSubmitted_blind : Commutes (Host.showing b) (transferCancelIfSubmitted hcd t) :=
  .readThen (fun _ => rfl) fun _ => .ite (fun _ => .pure) fun _ => .bind ask_blind fun _ => .modify fun _ => rfl

theorem transferAllocate_blind : Commutes (Host.showing b) (transferAllocate c) := by
  refine .bind ready_blind fun _ => .readThen (fun _ => rfl) fun h => ?_
  split
  · exact .bind (.modify fun _ => rfl) fun _ => .pure
  · exact .fail

theorem transferRelease_blind : Commutes (Host.showing b) (transferRelease c hcd t) :=
  .bind ready_blind fun _ => .readThen (fun _ => rfl) fun _ => .bind .reject fun _ =>
    .bind transferCancelIfSubmitted_blind fun _ => .modify fun _ => rfl

theorem transferSubmit_blind : Commutes (Host.showing b) (transferSubmit c hcd t) :=
  .readThen (fun _ => rfl) fun _ => .bind .reject fun _ => .bind .reject fun _ => .bind .reject
    fun _ => .bind .reject fun _ =>
    .bind ask_blind fun _ => .modify fun _ => rfl

theorem heldTransferRelease_blind {held : Option Nat} : Commutes (Host.showing b) (heldTransferRelease c hcd held) := by
  cases held with
  | some t => exact transferRelease_blind
  | none => exact .pure

theorem hidTransferSubmit_blind {k : Nat} : Commutes (Host.showing b) (hidTransferSubmit c hcd k) := by
  refine .readThen (fun _ => rfl) fun h => ?_
  split
  · exact .bind (.modify fun _ => rfl) fun _ => transferSubmit_blind
  · exact .fail

variable {buffer : Nat → UInt8} {driver : ClassDriver}

theorem classStart_blind {i : Nat} : Commutes (Host.showing b) (classStart c hcd driver i) := by
  cases driver with
  | hid =>
    refine .readThen (fun _ => rfl) fun h => ?_
    split
    · exact .fail
    · exact .fail
    · exact .bind (.modify fun _ => rfl) fun _ => .bind (.onError transferAllocate_blind fun _ => .modify fun _ => rfl) fun _ =>
        .bind (.modify fun _ => rfl) fun _ => .onError hidTransferSubmit_blind fun _ =>
          .bind transferRelease_blind.ignore fun _ => .modify fun _ => rfl
  | msc =>
    refine .readThen (fun _ => rfl) fun h => ?_
    split
    · split
      · exact .fail
      · exact .modify fun _ => rfl
    · exact .fail

theorem classStop_blind {i : Nat} : Commutes (Host.showing b) (classStop c hcd driver i) := by
  cases driver with
  | hid =>
    refine .readThen (fun _ => rfl) fun h => ?_
    split
    · exact .pure
    · exact .bind heldTransferRelease_blind fun _ => .modify fun _ => rfl
  | msc =>
    refine .readThen (fun _ => rfl) fun h => ?_
    split
    · exact .pure
    · exact .bind heldTransferRelease_blind fun _ => .modify fun _ => rfl

theorem classUnbindDevice_blind : Commutes (Host.showing b) (classUnbindDevice c hcd d) := by
  refine .readThen (fun _ => rfl) fun h => .bind .reject fun _ => .bind .reject fun _ => .forEach fun i =>
    .readThen (fun _ => rfl) fun interface => ?_
  split
  · exact .pure
  · exact .onlyIf (.bind classStop_blind.attempt fun _ => .bind (.modify fun _ => rfl) fun _ => .finish)

theorem classBindDevice_blind : Commutes (Host.showing b) (classBindDevice c hcd d) := by
  refine .readThen (fun _ => rfl) fun h => .bind .reject fun _ => .bind .reject fun _ => .forEach fun i =>
    .readThen (fun _ => rfl) fun interface => .onlyIf (.onError ?_ fun _ => classUnbindDevice_blind)
  refine .readThen (fun _ => rfl) fun h => .bind .reject fun _ => ?_
  split
  · exact .pure
  · exact .bind classStart_blind fun _ => .modify fun _ => rfl

theorem releaseInterfacesForDevice_blind : Commutes (Host.showing b) (releaseInterfacesForDevice c d) :=
  .forEach fun _ => .readThen (fun _ => rfl) fun _ => .onlyIf <|
    .bind (.forEach fun _ => .readThen (fun _ => rfl) fun _ => .onlyIf (.modify fun _ => rfl))
      fun _ => .modify fun _ => rfl

theorem topologyCurrentInterfaceFinish_blind : Commutes (Host.showing b) (topologyCurrentInterfaceFinish parser) := by
  refine .readThen (fun _ => rfl) fun h => ?_
  split
  · exact .bind .reject fun _ => .pure
  · exact .pure

theorem topologyDescriptorStore_blind
    :
    Commutes (Host.showing b) (topologyDescriptorStore c d buffer header parser) := by
  refine .ite (fun _ => ?_) fun _ => .ite (fun _ => ?_) fun _ => .pure
  · refine .bind topologyCurrentInterfaceFinish_blind fun _ => .bind .finish fun _ => .ite (fun _ => .pure) fun _ =>
      .bind (.bind ready_blind fun _ => .readThen (fun _ => rfl) fun h => .bind .reject fun _ => ?_) fun _ =>
        .bind (.modify fun _ => rfl) fun _ => .pure
    split
    · exact .bind (.modify fun _ => rfl) fun _ => .pure
    · exact .fail
  · refine .readThen (fun _ => rfl) fun h => ?_
    split
    · exact .ite (fun _ => .pure) fun _ => .fail
    · refine .bind .reject fun _ => .bind .finish fun _ => .bind .reject fun _ =>
        .bind (.bind ready_blind fun _ => .readThen (fun _ => rfl) fun h => .bind .reject fun _ => ?_) fun _ =>
          .bind (.modify fun _ => rfl) fun _ => .bind (.modify fun _ => rfl) fun _ => .pure
      split
      · exact .bind (.modify fun _ => rfl) fun _ => .pure
      · exact .fail

theorem deviceBuildTopology_blind {d length : Nat} :
    Commutes (Host.showing b) (deviceBuildTopology c d buffer length) := by
  have walk {length fuel offset : Nat} {parser : TopologyParse} :
      Commutes (Host.showing b) (topologyWalk c d buffer length fuel offset parser) := by
    induction fuel generalizing offset parser with
    | zero => exact .pure
    | succ fuel ih =>
      exact .ite (fun _ => .pure) fun _ => .bind .finish fun _ => .bind topologyDescriptorStore_blind fun _ => ih
  exact .bind ready_blind fun _ => .readThen (fun _ => rfl) fun _ => .bind .reject fun _ => .bind .finish fun _ =>
    .bind releaseInterfacesForDevice_blind fun _ =>
      .onError (.bind walk fun _ => .bind topologyCurrentInterfaceFinish_blind fun _ => .reject)
        fun _ => releaseInterfacesForDevice_blind

theorem enumTransferRelease_blind : Commutes (Host.showing b) (enumTransferRelease c hcd) := by
  refine .readThen (fun _ => rfl) fun h => ?_
  split
  · exact .modify fun _ => rfl
  · exact .bind transferRelease_blind.attempt fun _ => .bind (.modify fun _ => rfl) fun _ => .finish

theorem enumFail_blind {status : Error} : Commutes (Host.showing b) (enumFail c hcd status) :=
  .readThen (fun _ => rfl) fun _ => .bind (.onlyIf (.modify fun _ => rfl))
    fun _ => .bind enumTransferRelease_blind.ignore fun _ =>
    .bind (.modify fun _ => rfl) fun _ => .bind (.modify fun _ => rfl) fun _ => .fail

theorem enumControlSubmit_blind {setup : SetupRequest} {data : Buffer} {length : Nat} {waitState : EnumerationState} :
    Commutes (Host.showing b) (enumControlSubmit c hcd setup data length waitState) := by
  refine .readThen (fun _ => rfl) fun h => ?_
  split
  · refine .bind (.modify fun _ => rfl) fun _ => .bind transferSubmit_blind.attempt fun status => ?_
    split
    · exact enumFail_blind
    · exact .bind (.modify fun _ => rfl) fun _ => .modify fun _ => rfl
  · exact enumFail_blind

theorem enumSetAddressComplete_blind : Commutes (Host.showing b) (enumSetAddressComplete c hcd) := by
  refine .readThen (fun _ => rfl) fun h => ?_
  split
  · exact enumFail_blind
  · exact .bind (.modify fun _ => rfl) fun _ => .bind (.modify fun _ => rfl) fun _ => .modify fun _ => rfl

theorem enumSetConfigurationComplete_blind : Commutes (Host.showing b) (enumSetConfigurationComplete c hcd) := by
  refine .readThen (fun _ => rfl) fun h => ?_
  split
  · exact enumFail_blind
  · refine .bind enumTransferRelease_blind.attempt fun status => ?_
    split
    · exact enumFail_blind
    · refine .bind classBindDevice_blind.attempt fun status => ?_
      split
      · exact enumFail_blind
      · exact .bind (.modify fun _ => rfl) fun _ => .bind (.modify fun _ => rfl)
          fun _ => .bind (.modify fun _ => rfl) fun _ =>
          .modify fun _ => rfl

/- The parsers. -/

def Agree (b b' : Nat → UInt8) (n : Nat) : Prop := ∀ j < n, b j = b' j

theorem Agree.mono {b b' : Nat → UInt8} {n m : Nat} (agree : Agree b b' n) (le : m ≤ n) : Agree b b' m :=
  fun j small => agree j (by omega)

section Parse

variable {b b' : Nat → UInt8} {n : Nat}

theorem readLE16_agree {k : Nat} (agree : Agree b b' n) (small : k + 1 < n) : readLE16 b k = readLE16 b' k := by
  rw [readLE16, readLE16, agree k (by omega), agree (k + 1) small]

variable {minLength type : Nat} {offset : Nat}

theorem descriptorHeaderParseAt_agree (agree : Agree b b' n) :
    descriptorHeaderParseAt b n offset = descriptorHeaderParseAt b' n offset := by
  rw [descriptorHeaderParseAt, descriptorHeaderParseAt]
  by_cases bad : n < 2 ∨ n - 2 < offset
  · rw [if_pos bad, if_pos bad]
  · rw [if_neg bad, if_neg bad, agree offset (by omega), agree (offset + 1) (by omega)]

theorem descriptorHeaderParseAt_bound
    (parsed : descriptorHeaderParseAt b n offset = .ok header) :
    header.offset + header.length ≤ n ∧ header.offset < n := by
  rw [descriptorHeaderParseAt] at parsed
  split at parsed
  · cases parsed
  · next first =>
    dsimp only at parsed
    split at parsed
    · cases parsed
    · next second =>
      cases parsed
      dsimp only
      omega

theorem descriptorHeaderParse_bound
    (parsed : descriptorHeaderParse b n minLength type = .ok header) : minLength ≤ n := by
  rw [descriptorHeaderParse] at parsed
  rcases first : descriptorHeaderParseAt b n 0 with e | header'
  · rw [first] at parsed
    cases parsed
  · rw [first] at parsed
    have bound := descriptorHeaderParseAt_bound first
    change (if _ then Except.error _ else Except.ok _) = _ at parsed
    split at parsed
    · cases parsed
    · next good =>
      simp only [not_or] at good
      omega

theorem descriptorHeaderParse_agree (agree : Agree b b' n) :
    descriptorHeaderParse b n minLength type = descriptorHeaderParse b' n minLength type := by
  rw [descriptorHeaderParse, descriptorHeaderParse, descriptorHeaderParseAt_agree agree]

theorem deviceDescriptorParse_agree (agree : Agree b b' deviceDescLen) :
    deviceDescriptorParse b deviceDescLen = deviceDescriptorParse b' deviceDescLen := by
  have small : deviceDescLen = 18 := rfl
  rw [deviceDescriptorParse, deviceDescriptorParse, descriptorHeaderParse_agree agree, agree 4 (by omega), agree 5 (by omega),
    agree 6 (by omega), agree 17 (by omega), readLE16_agree agree (by omega), readLE16_agree agree (by omega)]

section

variable (agree : Agree b b' n)
include agree

theorem configurationDescriptorParse_agree :
    configurationDescriptorParse b n = configurationDescriptorParse b' n := by
  rw [configurationDescriptorParse, configurationDescriptorParse, descriptorHeaderParse_agree agree]
  rcases parsed : descriptorHeaderParse b' n configurationDescLen descTypeConfiguration with e | header
  · rfl
  · have long := descriptorHeaderParse_bound parsed
    have nine : configurationDescLen = 9 := rfl
    rw [readLE16_agree agree (by omega), agree 4 (by omega), agree 5 (by omega)]

theorem descriptorWalk_agree {fuel offset : Nat} :
    descriptorWalk b n fuel offset = descriptorWalk b' n fuel offset := by
  induction fuel generalizing offset with
  | zero => rfl
  | succ fuel ih =>
    rw [descriptorWalk, descriptorWalk, descriptorHeaderParseAt_agree agree]
    simp only [ih]

theorem configurationDescriptorValidate_agree :
    configurationDescriptorValidate b n = configurationDescriptorValidate b' n := by
  rw [configurationDescriptorValidate, configurationDescriptorValidate, configurationDescriptorParse_agree agree]
  rcases configurationDescriptorParse b' n with e | config
  · rfl
  · change (if config.totalLength < configurationDescLen ∨ n < config.totalLength then Except.error Error.invalidArgument else _) =
      if config.totalLength < configurationDescLen ∨ n < config.totalLength then
        Except.error Error.invalidArgument else _
    by_cases bad : config.totalLength < configurationDescLen ∨ n < config.totalLength
    · rw [if_pos bad, if_pos bad]
    · rw [if_neg bad, if_neg bad, descriptorWalk_agree (agree.mono (by omega))]

theorem interfaceDescriptorParse_agree : interfaceDescriptorParse b n = interfaceDescriptorParse b' n := by
  rw [interfaceDescriptorParse, interfaceDescriptorParse, descriptorHeaderParse_agree agree]
  rcases parsed : descriptorHeaderParse b' n interfaceDescLen descTypeInterface with e | header
  · rfl
  · have long := descriptorHeaderParse_bound parsed
    have nine : interfaceDescLen = 9 := rfl
    rw [agree 2 (by omega), agree 3 (by omega), agree 4 (by omega), agree 5 (by omega), agree 6 (by omega), agree 7 (by omega)]

theorem endpointDescriptorParse_agree : endpointDescriptorParse b n = endpointDescriptorParse b' n := by
  rw [endpointDescriptorParse, endpointDescriptorParse, descriptorHeaderParse_agree agree]
  rcases parsed : descriptorHeaderParse b' n endpointDescLen descTypeEndpoint with e | header
  · rfl
  · have long := descriptorHeaderParse_bound parsed
    have seven : endpointDescLen = 7 := rfl
    rw [agree 2 (by omega), agree 3 (by omega), agree 6 (by omega), readLE16_agree agree (by omega)]

theorem topologyDescriptorStore_agree

    (inside : header.offset + header.length ≤ n) :
    topologyDescriptorStore c d b header parser = topologyDescriptorStore c d b' header parser := by
  have part : Agree (header.data b) (header.data b') header.length := fun j small => agree _ (by omega)
  rw [topologyDescriptorStore, topologyDescriptorStore, topologyInterfaceStore, topologyInterfaceStore, topologyEndpointStore,
    topologyEndpointStore, interfaceDescriptorParse_agree part, endpointDescriptorParse_agree part]

theorem topologyWalk_agree {d fuel offset : Nat} :
    topologyWalk c d b n fuel offset parser = topologyWalk c d b' n fuel offset parser := by
  induction fuel generalizing offset parser with
  | zero => rfl
  | succ fuel ih =>
    rw [topologyWalk, topologyWalk, descriptorHeaderParseAt_agree agree]
    rcases parsed : descriptorHeaderParseAt b' n offset with e | header
    · rfl
    · simp only [finish_ok, pure_bind, ih, topologyDescriptorStore_agree agree (descriptorHeaderParseAt_bound parsed).1]

end

theorem configurationDescriptorValidate_bound {length : Nat}
    (valid : configurationDescriptorValidate b n = .ok length) :
    length ≤ n := by
  rw [configurationDescriptorValidate] at valid
  rcases parsed : configurationDescriptorParse b n with e | config
  · rw [parsed] at valid
    cases valid
  · rw [parsed] at valid
    change (if config.totalLength < configurationDescLen ∨ n < config.totalLength then Except.error Error.invalidArgument else _) = _
      at valid
    split at valid
    · cases valid
    · next good =>
      rcases walked : descriptorWalk b config.totalLength config.totalLength 0 with e | headers
      · rw [walked] at valid
        cases valid
      · rw [walked] at valid
        cases valid
        omega

theorem deviceBuildTopology_agree (agree : Agree b b' n) :
    deviceBuildTopology c d b n = deviceBuildTopology c d b' n := by
  rw [deviceBuildTopology, deviceBuildTopology, configurationDescriptorValidate_agree agree]
  rcases valid : configurationDescriptorValidate b' n with e | length
  · rfl
  · have bound := configurationDescriptorValidate_bound valid
    simp only [finish_ok, pure_bind, topologyWalk_agree (agree.mono bound)]

end Parse

/- The enumeration. -/

/-- In this state the call does not see which of the two buffers there is. -/
def Unseen (b : Nat → UInt8) (m : HostM Unit) (h : Host) : Prop := m (h.showing b) = ((m h).1, (m h).2.showing b)

def Host.arrived (h : Host) : Nat := (h.transfers h.enumeration.transferIndex).actualLength

section Reads

variable {h : Host} {length : Nat} {complete : HostM Unit}

theorem showing_controlBuffer : (h.showing b).controlBuffer = b := rfl
theorem showing_enumeration : (h.showing b).enumeration = h.enumeration := rfl
theorem showing_devices : (h.showing b).devices = h.devices := rfl
theorem showing_device : enumDeviceGet c (h.showing b) = enumDeviceGet c h := rfl

theorem unseen_read {g : Host → HostM Unit} (same : g (h.showing b) = g h) (rest : Unseen b (g h) h) :
    Unseen b (Call.read id >>= g) h := by
  rw [Unseen, read_bind, read_bind, id_eq, id_eq, same]
  exact rest

theorem enumTransferGet_index (slot : enumTransferGet c h = some t) : t = h.enumeration.transferIndex := by
  rw [enumTransferGet] at slot
  split at slot
  · cases slot
  · cases slot
    rfl

theorem enumWaitForTransfer_reads (completes : length ≤ h.arrived → Unseen b complete h) :
    Unseen b (enumWaitForTransfer c hcd length complete) h := by
  refine unseen_read rfl ?_
  rcases slot : enumTransferGet c h with _ | t
  · exact enumFail_blind h
  · dsimp only
    by_cases submitted : (h.transfers t).isSubmitted = true
    · rw [if_pos submitted]
      by_cases lapsed : h.enumeration.timeoutRemaining = 0
      · rw [if_pos lapsed]
        exact enumFail_blind h
      · rw [if_neg lapsed]
        rfl
    · rw [if_neg submitted]
      by_cases bad : (h.transfers t).lastEvent ≠ .complete ∨ (h.transfers t).actualLength < length
      · rw [if_pos bad]
        exact enumFail_blind h
      · rw [if_neg bad]
        refine completes ?_
        rw [Host.arrived, ← enumTransferGet_index slot]
        omega

theorem enumDeviceHeaderComplete_reads (agree : Agree b h.controlBuffer 8) :
    Unseen b (enumDeviceHeaderComplete c hcd) h := by
  refine unseen_read ?_ ?_
  · simp only [showing_controlBuffer, showing_devices, showing_device, agree 0 (by omega), agree 1 (by omega), agree 7 (by omega)]
  · rcases enumDeviceGet c h with _ | d
    · exact enumFail_blind h
    · dsimp only
      by_cases bad : (h.controlBuffer 0).toNat < deviceDescLen ∨ (h.controlBuffer 1).toNat ≠ descTypeDevice
      · rw [if_pos bad]
        exact enumFail_blind h
      · rw [if_neg bad]
        rcases ep0PacketSizeDecode (h.devices d).speed (h.controlBuffer 7).toNat with e | packetSize
        · exact enumFail_blind h
        · rfl

theorem enumDeviceFullComplete_reads (agree : Agree b h.controlBuffer deviceDescLen) :
    Unseen b (enumDeviceFullComplete c hcd) h := by
  refine unseen_read ?_ ?_
  · simp only [showing_controlBuffer, showing_device, deviceDescriptorParse_agree agree]
  · rcases enumDeviceGet c h with _ | d
    · exact enumFail_blind h
    · rcases deviceDescriptorParse h.controlBuffer deviceDescLen with e | descriptor
      · exact enumFail_blind h
      · dsimp only
        by_cases none : descriptor.configurationCount = 0
        · rw [if_pos none]
          exact enumFail_blind h
        · rw [if_neg none]
          rfl

theorem enumConfigHeaderComplete_reads (agree : Agree b h.controlBuffer configurationDescLen) :
    Unseen b (enumConfigHeaderComplete c hcd) h := by
  refine unseen_read ?_ ?_
  · simp only [showing_controlBuffer, configurationDescriptorParse_agree agree]
  · rcases configurationDescriptorParse h.controlBuffer configurationDescLen with e | descriptor
    · exact enumFail_blind h
    · dsimp only
      by_cases bad : descriptor.totalLength < configurationDescLen ∨
        c.maxConfigDescriptorSize < descriptor.totalLength ∨
          descriptor.interfaceCount = 0
      · rw [if_pos bad]
        exact enumFail_blind h
      · rw [if_neg bad]
        rfl

theorem enumConfigFullComplete_reads (agree : Agree b h.controlBuffer h.enumeration.configTotalLength) :
    Unseen b (enumConfigFullComplete c hcd) h := by
  refine unseen_read ?_ ?_
  · simp only [showing_controlBuffer, showing_enumeration, showing_device, configurationDescriptorValidate_agree agree,
      deviceBuildTopology_agree agree]
  · rcases enumDeviceGet c h with _ | d
    · exact enumFail_blind h
    · rcases configurationDescriptorValidate h.controlBuffer h.enumeration.configTotalLength with e | totalLength
      · exact enumFail_blind h
      · dsimp only
        by_cases differs : totalLength ≠ h.enumeration.configTotalLength
        · rw [if_pos differs]
          exact enumFail_blind h
        · rw [if_neg differs]
          refine Commutes.bind (u := Host.showing b) deviceBuildTopology_blind.attempt (fun status => ?_) h
          split
          · exact enumFail_blind
          · exact .modify fun _ => rfl

/-- A call of the enumeration looks at no byte beyond those that its transfer has brought. -/
theorem enumerationProcess_reads {p : Nat} (agree : Agree b h.controlBuffer h.arrived) :
    Unseen b (enumerationProcess c hcd p) h := by
  have waits {length : Nat} {complete : HostM Unit} (completes : Agree b h.controlBuffer length → Unseen b complete h) :
      Unseen b (enumWaitForTransfer c hcd length complete) h :=
    enumWaitForTransfer_reads fun long => completes (agree.mono long)
  refine unseen_read rfl ?_
  by_cases elsewhere : portIsValid h p = false ∨ h.enumeration.port ≠ p
  · rw [reject_bind_pos _ elsewhere]
    rfl
  · rw [reject_bind_neg _ elsewhere]
    by_cases inactive : h.enumeration.isActive = false
    · rw [if_pos inactive]
      rfl
    · rw [if_neg inactive]
      cases state : h.enumeration.state with
      | getDeviceHeaderSubmit => exact enumControlSubmit_blind h
      | getDeviceHeaderWait => exact waits enumDeviceHeaderComplete_reads
      | setAddressSubmit =>
        refine Commutes.readThen (u := Host.showing b) (fun _ => rfl) (fun h => ?_) h
        split
        · exact enumFail_blind
        · exact enumControlSubmit_blind
      | setAddressWait => exact waits fun _ => enumSetAddressComplete_blind h
      | addressSettle =>
        dsimp only
        by_cases left : 0 < h.enumeration.addressSettleRemaining
        · rw [if_pos left]
          rfl
        · rw [if_neg left]
          have marked : Commutes (Host.showing b) (enumStateSet .getDeviceFullSubmit) := .modify fun _ => rfl
          exact marked.bind (fun _ => enumControlSubmit_blind) h
      | getDeviceFullSubmit => exact enumControlSubmit_blind h
      | getDeviceFullWait => exact waits enumDeviceFullComplete_reads
      | getConfigHeaderSubmit => exact enumControlSubmit_blind h
      | getConfigHeaderWait => exact waits enumConfigHeaderComplete_reads
      | getConfigFullSubmit =>
        exact Commutes.readThen (u := Host.showing b) (fun _ => rfl) (fun _ => enumControlSubmit_blind) h
      | getConfigFullWait => exact waits enumConfigFullComplete_reads
      | setConfigurationSubmit =>
        exact Commutes.readThen (u := Host.showing b) (fun _ => rfl) (fun _ => enumControlSubmit_blind) h
      | setConfigurationWait => exact waits fun _ => enumSetConfigurationComplete_blind h
      | idle => rfl
      | complete => rfl
      | error => rfl

end Reads

end XSDK.Usbh
