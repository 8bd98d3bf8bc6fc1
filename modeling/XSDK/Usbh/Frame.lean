import XSDK.Usbh.Core

/-! What the calls leave alone. The slots and the class drivers do not touch the ports, the
devices and the enumeration record, and nothing but a port's own step says that it stepped. -/
namespace XSDK.Usbh

open Library Library.Call

def Record.Outward (r : Record) : Prop := ∀ p, r ≠ .stepped p

structure Quiet (I : Host → Prop) : Prop where
  transfers : ∀ h x, I h → I { h with transfers := x }
  hid : ∀ h x, I h → I { h with hid := x }
  msc : ∀ h x, I h → I { h with msc := x }
  log : ∀ h r, Record.Outward r → I h → I { h with log := r :: h.log }

structure Apart (I : Host → Prop) : Prop extends Quiet I where
  interfaces : ∀ h x, I h → I { h with interfaces := x }
  endpoints : ∀ h x, I h → I { h with endpoints := x }

/-- A property that does not look at interfaces and endpoints, whatever else it looks at. -/
structure Inner (I : Host → Prop) : Prop where
  interfaces : ∀ h x, I h → I { h with interfaces := x }
  endpoints : ∀ h x, I h → I { h with endpoints := x }

theorem Apart.inner {I : Host → Prop} (apart : Apart I) : Inner I := ⟨apart.interfaces, apart.endpoints⟩

structure Remote (I : Host → Prop) : Prop extends Apart I where
  rootPorts : ∀ h x, I h → I { h with rootPorts := x }
  enumeration : ∀ h x, I h → I { h with enumeration := x }
  devices : ∀ h x, I h → I { h with devices := x }
  controlBuffer : ∀ h x, I h → I { h with controlBuffer := x }

variable {c : Config} {hcd : Hcd} {I : Host → Prop}

section Quiet

variable (quiet : Quiet I)
include quiet

variable {k i t : Nat}

theorem updateTransfer_keeps {f : Transfer → Transfer} : Keeps I (updateTransfer t f) :=
  .modify fun h kept => quiet.transfers h _ kept

theorem updateHid_keeps {f : HidInstance → HidInstance} : Keeps I (updateHid k f) :=
  .modify fun h kept => quiet.hid h _ kept

theorem updateMsc_keeps {f : MscInstance → MscInstance} : Keeps I (updateMsc k f) :=
  .modify fun h kept => quiet.msc h _ kept

variable {driver : ClassDriver} {state : MscState} {endpoint : Option Nat} {r : Record}

theorem note_keeps (outward : r.Outward) : Keeps I (note r) :=
  .modify fun h kept => quiet.log h r outward kept

theorem ask_keeps {α : Type} {answer : List Record → Except Error α} (outward : r.Outward) : Keeps I (ask r answer) :=
  .bind .read fun _ => .bind .reject fun _ => .bind (note_keeps quiet outward) fun _ => .finish

omit quiet in
theorem ready_keeps : Keeps I contextReadyForRuntimeSlots := .bind .read fun _ => .reject

theorem transferAllocate_keeps : Keeps I (transferAllocate c) := by
  refine .bind ready_keeps fun _ => .bind .read fun h => ?_
  split
  · exact .bind (updateTransfer_keeps quiet) fun _ => .pure
  · exact .fail

theorem transferCancelIfSubmitted_keeps : Keeps I (transferCancelIfSubmitted hcd t) :=
  .bind .read fun _ => .ite (fun _ => .pure) fun _ =>
    .bind (ask_keeps quiet fun _ => by simp) fun _ => updateTransfer_keeps quiet

theorem transferRelease_keeps : Keeps I (transferRelease c hcd t) :=
  .bind ready_keeps fun _ => .bind .read fun _ => .bind .reject fun _ =>
    .bind (transferCancelIfSubmitted_keeps quiet) fun _ => updateTransfer_keeps quiet

theorem transferSubmit_keeps : Keeps I (transferSubmit c hcd t) :=
  .bind .read fun _ => .bind .reject fun _ => .bind .reject fun _ => .bind .reject fun _ => .bind .reject fun _ =>
    .bind (ask_keeps quiet fun _ => by simp) fun _ => updateTransfer_keeps quiet

theorem releaseTransfersForDevice_keeps {a : Nat} : Keeps I (releaseTransfersForDevice c hcd a) :=
  .forEach fun _ => .bind .read fun _ => .onlyIf <|
    .bind (transferCancelIfSubmitted_keeps quiet).ignore fun _ => updateTransfer_keeps quiet

theorem heldTransferRelease_keeps {held : Option Nat} : Keeps I (heldTransferRelease c hcd held) := by
  cases held with
  | some t => exact transferRelease_keeps quiet
  | none => exact .pure

theorem hidTransferSubmit_keeps : Keeps I (hidTransferSubmit c hcd k) := by
  refine .bind .read fun h => ?_
  split
  · exact .bind (updateTransfer_keeps quiet) fun _ => transferSubmit_keeps quiet
  · exact .fail

theorem hidStart_keeps : Keeps I (hidStart c hcd i) := by
  refine .bind .read fun h => ?_
  split
  · exact .fail
  · exact .fail
  · exact .bind (updateHid_keeps quiet) fun _ => .bind (.onError (transferAllocate_keeps quiet) fun _ => updateHid_keeps quiet) fun _ =>
      .bind (updateHid_keeps quiet) fun _ => .onError (hidTransferSubmit_keeps quiet) fun _ =>
        .bind (transferRelease_keeps quiet).ignore fun _ => updateHid_keeps quiet

theorem hidStop_keeps : Keeps I (hidStop c hcd i) := by
  refine .bind .read fun h => ?_
  split
  · exact .pure
  · exact .bind (heldTransferRelease_keeps quiet) fun _ => updateHid_keeps quiet

theorem hidTransferComplete_keeps {i t : Nat} : Keeps I (hidTransferComplete c hcd i t) := by
  refine .bind .read fun h => ?_
  split
  · exact .pure
  · refine .ite (fun _ => .pure) fun _ => .ite (fun _ => .pure) fun _ => ?_
    split
    · exact .bind (note_keeps quiet fun _ => by simp) fun _ => hidTransferSubmit_keeps quiet
    · exact .bind (note_keeps quiet fun _ => by simp) fun _ => hidTransferSubmit_keeps quiet
    · exact .pure

theorem mscStart_keeps : Keeps I (mscStart c i) := by
  refine .bind .read fun h => ?_
  split
  · split
    · exact .fail
    · exact updateMsc_keeps quiet
  · exact .fail

theorem mscStop_keeps : Keeps I (mscStop c hcd i) := by
  refine .bind .read fun h => ?_
  split
  · exact .pure
  · exact .bind (heldTransferRelease_keeps quiet) fun _ => updateMsc_keeps quiet

theorem mscTransferPrepareAndSubmit_keeps {k length : Nat} {data : Buffer} :
    Keeps I (mscTransferPrepareAndSubmit c hcd k endpoint data length state) := by
  refine .bind .read fun h => ?_
  split
  · exact .bind (updateTransfer_keeps quiet) fun _ => .bind (updateMsc_keeps quiet) fun _ => transferSubmit_keeps quiet
  · exact .fail

theorem mscControlTransferSubmit_keeps {setup : SetupRequest} :
    Keeps I (mscControlTransferSubmit c hcd k setup state) := by
  refine .bind .read fun h => ?_
  split
  · exact .bind (updateTransfer_keeps quiet) fun _ => .bind (updateMsc_keeps quiet) fun _ => transferSubmit_keeps quiet
  · exact .fail

theorem mscOwnedTransferRelease_keeps : Keeps I (mscOwnedTransferRelease c hcd k) := by
  refine .bind .read fun h => ?_
  dsimp only
  split
  · exact .bind (transferRelease_keeps quiet).attempt fun _ => .bind (updateMsc_keeps quiet) fun _ => .finish
  · exact updateMsc_keeps quiet

theorem mscScsiCommandStart_keeps {lun length : Nat} {cdb : List UInt8} {buffer : Buffer} {dataIn : Bool} :
    Keeps I (mscScsiCommandStart c hcd lun cdb buffer length dataIn) := by
  refine .bind .reject fun _ => .bind .reject fun _ => .bind .read fun h => ?_
  split
  · exact .fail
  · exact .bind .reject fun _ => .bind (transferAllocate_keeps quiet) fun _ => .bind (updateMsc_keeps quiet) fun _ =>
      .bind (updateMsc_keeps quiet) fun _ => .onError (mscTransferPrepareAndSubmit_keeps quiet) fun _ =>
        .bind (mscOwnedTransferRelease_keeps quiet).ignore fun _ => updateMsc_keeps quiet

theorem mscBlockOperationStart_keeps {lun lba count length : Nat} {buffer : Buffer} {isRead : Bool} :
    Keeps I (mscBlockOperationStart c hcd lun lba count buffer length isRead) := by
  refine .bind .reject fun _ => .bind .reject fun _ => .bind .read fun h => ?_
  split
  · exact .fail
  · exact .bind .reject fun _ => .bind .reject fun _ => .bind .reject fun _ => mscScsiCommandStart_keeps quiet

theorem mscTransferErrorUpdate_keeps {k t : Nat} : Keeps I (mscTransferErrorUpdate k t) :=
  .bind .read fun _ => updateMsc_keeps quiet

theorem mscDataComplete_keeps : Keeps I (mscDataComplete c hcd k) :=
  .bind .read fun _ => .bind (updateMsc_keeps quiet) fun _ => mscTransferPrepareAndSubmit_keeps quiet

theorem mscCommandComplete_keeps : Keeps I (mscCommandComplete c hcd k) :=
  .bind .read fun _ => .ite (fun _ => mscDataComplete_keeps quiet) fun _ => mscTransferPrepareAndSubmit_keeps quiet

theorem mscSuccessDataParse_keeps : Keeps I (mscSuccessDataParse k) := by
  refine .bind .read fun h => ?_
  dsimp only
  split
  · exact .onlyIf (.bind (note_keeps quiet fun _ => by simp) fun _ => updateMsc_keeps quiet)
  · exact .pure

theorem mscCswComplete_keeps : Keeps I (mscCswComplete c hcd k) := by
  have release {m : HostM Unit} (first : Keeps I m) : Keeps I (m >>= fun _ => mscOwnedTransferRelease c hcd k) :=
    .bind first fun _ => mscOwnedTransferRelease_keeps quiet
  exact .bind .read fun _ => .ite (fun _ => release (updateMsc_keeps quiet)) fun _ =>
    .ite (fun _ => release (updateMsc_keeps quiet)) fun _ => .ite (fun _ => release (updateMsc_keeps quiet)) fun _ =>
      .bind (updateMsc_keeps quiet) fun _ => release (mscSuccessDataParse_keeps quiet)

theorem mscHaltStep_keeps : Keeps I (mscHaltStep c hcd k endpoint state) := by
  refine .onError (.bind .read fun h => ?_) fun _ => .bind (updateMsc_keeps quiet)
    fun _ => (mscOwnedTransferRelease_keeps quiet).ignore
  split
  · exact .fail
  · exact mscControlTransferSubmit_keeps quiet

theorem mscTransferComplete_keeps {i t : Nat} : Keeps I (mscTransferComplete c hcd i t) := by
  refine .bind .read fun h => ?_
  split
  · exact .pure
  · refine .ite (fun _ => .ite (fun _ => ?_) fun _ => ?_) fun _ => mscTransferErrorUpdate_keeps quiet
    · exact .bind (mscTransferErrorUpdate_keeps quiet) fun _ => mscOwnedTransferRelease_keeps quiet
    · split
      · exact mscCommandComplete_keeps quiet
      · exact mscDataComplete_keeps quiet
      · exact mscDataComplete_keeps quiet
      · exact mscCswComplete_keeps quiet
      · exact .bind .read fun _ => mscHaltStep_keeps quiet
      · exact .bind .read fun _ => mscHaltStep_keeps quiet
      · exact .bind (updateMsc_keeps quiet) fun _ => mscOwnedTransferRelease_keeps quiet
      · exact .pure

theorem mscResetRecovery_keeps {lun : Nat} : Keeps I (mscResetRecovery c hcd lun) := by
  have submit {k : Nat} : Keeps I (mscMassStorageResetSubmit c hcd k) := by
    refine .bind .read fun h => ?_
    split
    · exact .fail
    · exact mscControlTransferSubmit_keeps quiet
  refine .bind .reject fun _ => .bind .read fun h => ?_
  split
  · exact .fail
  · exact .bind .reject fun _ => .bind (updateMsc_keeps quiet) fun _ => .bind (transferAllocate_keeps quiet) fun _ =>
      .bind (updateMsc_keeps quiet) fun _ => .onError submit fun _ =>
        .bind (mscOwnedTransferRelease_keeps quiet).ignore fun _ => updateMsc_keeps quiet

theorem mscReadCapacity_keeps {lun capacity : Nat} : Keeps I (mscReadCapacity c hcd lun capacity) := by
  refine .bind .reject fun _ => .bind .read fun h => ?_
  split
  · exact .fail
  · exact .bind (mscScsiCommandStart_keeps quiet) fun _ => updateMsc_keeps quiet

theorem classStart_keeps : Keeps I (classStart c hcd driver i) := by
  cases driver with
  | hid => exact hidStart_keeps quiet
  | msc => exact mscStart_keeps quiet

theorem classStop_keeps : Keeps I (classStop c hcd driver i) := by
  cases driver with
  | hid => exact hidStop_keeps quiet
  | msc => exact mscStop_keeps quiet

theorem transferComplete_keeps {i t : Nat} : Keeps I (transferComplete c hcd driver i t) := by
  cases driver with
  | hid => exact hidTransferComplete_keeps quiet
  | msc => exact mscTransferComplete_keeps quiet

theorem classTransferComplete_keeps : Keeps I (classTransferComplete c hcd t) := by
  refine .bind .read fun h => .bind .reject fun _ => ?_
  split
  · refine .bind .read fun h => ?_
    split
    · exact .pure
    · refine .ite (fun _ => .pure) fun _ => .forEach fun i => .bind .read fun interface => ?_
      split
      · exact .pure
      · exact .onlyIf (transferComplete_keeps quiet)
  · dsimp only
    refine .ite (fun _ => .pure) fun _ => ?_
    split
    · exact .pure
    · exact .onlyIf (transferComplete_keeps quiet)

theorem hcdTransferEvent_frame {t n : Nat} {event : TransferEvent} {bytes : List UInt8}
    (buffer : ∀ h x, I h → I { h with controlBuffer := x }) : Keeps I (hcdTransferEvent c hcd t event n bytes) := by
  refine .bind .read fun h => .bind ?_ fun _ => .bind (updateTransfer_keeps quiet) fun _ =>
    .onlyIf (.bind (updateTransfer_keeps quiet) fun _ => (classTransferComplete_keeps quiet).ignore)
  cases (h.transfers t).data with
  | control => exact .modify fun h kept => buffer h _ kept
  | hidReport k => exact .modify fun h kept => quiet.hid h _ kept
  | mscCsw k => exact .modify fun h kept => quiet.msc h _ kept
  | mscCapacity k => exact .modify fun h kept => quiet.msc h _ kept
  | none => exact .pure
  | mscCbw k => exact .pure
  | caller pointer => exact .pure

end Quiet

section Inner

variable (inner : Inner I)
include inner

theorem updateInterface_keeps {i : Nat} {f : Interface → Interface} : Keeps I (updateInterface i f) :=
  .modify fun h kept => inner.interfaces h _ kept

theorem updateEndpoint_keeps {e : Nat} {f : Endpoint → Endpoint} : Keeps I (updateEndpoint e f) :=
  .modify fun h kept => inner.endpoints h _ kept

theorem interfaceAllocate_keeps {d : Nat} : Keeps I (interfaceAllocate c d) := by
  refine .bind ready_keeps fun _ => .bind .read fun h => .bind .reject fun _ => ?_
  split
  · exact .bind (updateInterface_keeps inner) fun _ => .pure
  · exact .fail

theorem endpointAllocate_keeps {i : Nat} : Keeps I (endpointAllocate c i) := by
  refine .bind ready_keeps fun _ => .bind .read fun h => .bind .reject fun _ => ?_
  split
  · exact .bind (updateEndpoint_keeps inner) fun _ => .pure
  · exact .fail

theorem releaseEndpointsForInterface_keeps {i : Nat} : Keeps I (releaseEndpointsForInterface c i) :=
  .forEach fun _ => .bind .read fun _ => .onlyIf (updateEndpoint_keeps inner)

theorem releaseInterfacesForDevice_keeps {d : Nat} : Keeps I (releaseInterfacesForDevice c d) :=
  .forEach fun _ => .bind .read fun _ => .onlyIf <|
    .bind (releaseEndpointsForInterface_keeps inner) fun _ => updateInterface_keeps inner

variable {parser : TopologyParse}

omit inner in
theorem topologyCurrentInterfaceFinish_keeps : Keeps I (topologyCurrentInterfaceFinish parser) := by
  refine .bind .read fun h => ?_
  split
  · exact .bind .reject fun _ => .pure
  · exact .pure

variable {buffer : Nat → UInt8} {d length : Nat} {data : Nat → UInt8}

theorem topologyInterfaceStore_keeps : Keeps I (topologyInterfaceStore c d data length parser) :=
  .bind topologyCurrentInterfaceFinish_keeps fun _ => .bind .finish fun _ => .ite (fun _ => .pure) fun _ =>
    .bind (interfaceAllocate_keeps inner) fun _ => .bind (updateInterface_keeps inner) fun _ => .pure

theorem topologyEndpointStore_keeps : Keeps I (topologyEndpointStore c d data length parser) := by
  refine .bind .read fun h => ?_
  split
  · exact .ite (fun _ => .pure) fun _ => .fail
  · exact .bind .reject fun _ => .bind .finish fun _ => .bind .reject
      fun _ => .bind (endpointAllocate_keeps inner) fun _ =>
      .bind (updateEndpoint_keeps inner) fun _ => .bind (updateInterface_keeps inner) fun _ => .pure

theorem topologyDescriptorStore_keeps {d : Nat} {header : DescriptorHeader}
    :
    Keeps I (topologyDescriptorStore c d buffer header parser) :=
  .ite (fun _ => topologyInterfaceStore_keeps inner)
    fun _ => .ite (fun _ => topologyEndpointStore_keeps inner) fun _ => .pure

theorem topologyWalk_keeps {d length fuel offset : Nat} :
    Keeps I (topologyWalk c d buffer length fuel offset parser) := by
  induction fuel generalizing offset parser with
  | zero => exact .pure
  | succ fuel ih =>
    exact .ite (fun _ => .pure) fun _ => .bind .finish fun _ => .bind (topologyDescriptorStore_keeps inner) fun _ => ih

theorem deviceBuildTopology_keeps : Keeps I (deviceBuildTopology c d buffer length) :=
  .bind ready_keeps fun _ => .bind .read fun _ => .bind .reject fun _ => .bind .finish fun _ =>
    .bind (releaseInterfacesForDevice_keeps inner) fun _ =>
      .onError (.bind (topologyWalk_keeps inner) fun _ => .bind topologyCurrentInterfaceFinish_keeps fun _ => .reject)
        fun _ => releaseInterfacesForDevice_keeps inner

end Inner

section Apart

variable (apart : Apart I)
include apart

theorem classBindInterface_keeps {i : Nat} : Keeps I (classBindInterface c hcd i) := by
  refine .bind .read fun h => .bind .reject fun _ => ?_
  split
  · exact .pure
  · exact .bind (classStart_keeps apart.toQuiet) fun _ => updateInterface_keeps apart.inner

theorem classUnbindDevice_keeps {d : Nat} : Keeps I (classUnbindDevice c hcd d) := by
  refine .bind .read fun h => .bind .reject fun _ => .bind .reject fun _ => .forEach
    fun i => .bind .read fun interface => ?_
  split
  · exact .pure
  · exact .onlyIf (.bind (classStop_keeps apart.toQuiet).attempt fun _ => .bind (updateInterface_keeps apart.inner) fun _ => .finish)

theorem classBindDevice_keeps {d : Nat} : Keeps I (classBindDevice c hcd d) :=
  .bind .read fun _ => .bind .reject fun _ => .bind .reject fun _ => .forEach fun _ => .bind .read fun _ =>
    .onlyIf (.onError (classBindInterface_keeps apart) fun _ => classUnbindDevice_keeps apart)

theorem deviceRelease_frame {d : Nat} (ports : ∀ h x, I h → I { h with rootPorts := x })
    (devices : ∀ h x, I h → I { h with devices := x }) : Keeps I (deviceRelease c hcd d) :=
  .bind ready_keeps fun _ => .bind .read fun _ => .bind .reject fun _ =>
    .bind (classUnbindDevice_keeps apart).ignore fun _ =>
      .bind (releaseTransfersForDevice_keeps apart.toQuiet) fun _ =>
        .bind (releaseInterfacesForDevice_keeps apart.inner) fun _ =>
          .bind (.modify fun h kept => ports h _ kept) fun _ => .modify fun h kept => devices h _ kept

end Apart

section Remote

variable (remote : Remote I)
include remote

variable {p : Nat}

theorem updatePort_keeps {f : RootPort → RootPort} : Keeps I (updatePort p f) :=
  .modify fun h kept => remote.rootPorts h _ kept

theorem updateEnum_keeps {f : Enumeration → Enumeration} : Keeps I (updateEnum f) :=
  .modify fun h kept => remote.enumeration h _ kept

theorem updateDevice_keeps {d : Nat} {f : Device → Device} : Keeps I (updateDevice d f) :=
  .modify fun h kept => remote.devices h _ kept

theorem deviceRelease_keeps {d : Nat} : Keeps I (deviceRelease c hcd d) :=
  deviceRelease_frame remote.toApart remote.rootPorts remote.devices

theorem enumTransferRelease_keeps : Keeps I (enumTransferRelease c hcd) := by
  refine .bind .read fun h => ?_
  split
  · exact updateEnum_keeps remote
  · exact .bind (transferRelease_keeps remote.toQuiet).attempt fun _ => .bind (updateEnum_keeps remote) fun _ => .finish

theorem enumFail_keeps {status : Error} : Keeps I (enumFail c hcd status) :=
  .bind .read fun _ => .bind (.onlyIf (updatePort_keeps remote))
    fun _ => .bind (enumTransferRelease_keeps remote).ignore fun _ =>
    .bind (updateEnum_keeps remote) fun _ => .bind (updateEnum_keeps remote) fun _ => .fail

theorem enumControlSubmit_keeps {setup : SetupRequest} {data : Buffer} {length : Nat} {waitState : EnumerationState} :
    Keeps I (enumControlSubmit c hcd setup data length waitState) := by
  refine .bind .read fun h => ?_
  split
  · refine .bind (updateTransfer_keeps remote.toQuiet)
      fun _ => .bind (transferSubmit_keeps remote.toQuiet).attempt fun status => ?_
    split
    · exact enumFail_keeps remote
    · exact .bind (updateEnum_keeps remote) fun _ => updateEnum_keeps remote
  · exact enumFail_keeps remote

theorem enumWaitForTransfer_keeps {expectedLength : Nat} {complete : HostM Unit} (completes : Keeps I complete) :
    Keeps I (enumWaitForTransfer c hcd expectedLength complete) := by
  refine .bind .read fun h => ?_
  split
  · exact enumFail_keeps remote
  · exact .ite (fun _ => .ite (fun _ => enumFail_keeps remote) fun _ => updateEnum_keeps remote) fun _ =>
      .ite (fun _ => enumFail_keeps remote) fun _ => completes

theorem enumDeviceHeaderComplete_keeps : Keeps I (enumDeviceHeaderComplete c hcd) := by
  refine .bind .read fun h => ?_
  split
  · exact enumFail_keeps remote
  · refine .ite (fun _ => enumFail_keeps remote) fun _ => ?_
    split
    · exact enumFail_keeps remote
    · exact .bind (updateDevice_keeps remote) fun _ => updateEnum_keeps remote

theorem enumSetAddressComplete_keeps : Keeps I (enumSetAddressComplete c hcd) := by
  refine .bind .read fun h => ?_
  split
  · exact enumFail_keeps remote
  · exact .bind (updateDevice_keeps remote) fun _ => .bind (updateEnum_keeps remote) fun _ => updateEnum_keeps remote

theorem enumDeviceFullComplete_keeps : Keeps I (enumDeviceFullComplete c hcd) := by
  refine .bind .read fun h => ?_
  split
  · exact enumFail_keeps remote
  · split
    · exact enumFail_keeps remote
    · exact .ite (fun _ => enumFail_keeps remote) fun _ => .bind (updateDevice_keeps remote)
        fun _ => updateEnum_keeps remote

theorem enumConfigHeaderComplete_keeps : Keeps I (enumConfigHeaderComplete c hcd) := by
  refine .bind .read fun h => ?_
  split
  · exact enumFail_keeps remote
  · exact .ite (fun _ => enumFail_keeps remote) fun _ => .bind (updateEnum_keeps remote)
      fun _ => updateEnum_keeps remote

theorem enumConfigFullComplete_keeps : Keeps I (enumConfigFullComplete c hcd) := by
  refine .bind .read fun h => ?_
  split
  · exact enumFail_keeps remote
  · split
    · exact enumFail_keeps remote
    · refine .ite (fun _ => enumFail_keeps remote)
        fun _ => .bind (deviceBuildTopology_keeps remote.toApart.inner).attempt fun status => ?_
      split
      · exact enumFail_keeps remote
      · exact updateEnum_keeps remote

theorem enumSetConfigurationComplete_keeps : Keeps I (enumSetConfigurationComplete c hcd) := by
  refine .bind .read fun h => ?_
  split
  · exact enumFail_keeps remote
  · refine .bind (enumTransferRelease_keeps remote).attempt fun status => ?_
    split
    · exact enumFail_keeps remote
    · refine .bind (classBindDevice_keeps remote.toApart).attempt fun status => ?_
      split
      · exact enumFail_keeps remote
      · exact .bind (updateDevice_keeps remote) fun _ => .bind (updatePort_keeps remote) fun _ =>
          .bind (updateEnum_keeps remote) fun _ => updateEnum_keeps remote

theorem deviceAllocate_keeps : Keeps I (deviceAllocate c p) := by
  refine .bind ready_keeps fun _ => .bind .read fun h => .bind .reject fun _ => ?_
  split
  · exact .bind (updateDevice_keeps remote) fun _ => .pure
  · exact .fail

theorem enumerationStart_keeps : Keeps I (enumerationStart c hcd p) :=
  .bind .read fun _ => .bind .reject fun _ => .bind .reject fun _ => .bind (deviceAllocate_keeps remote) fun _ =>
    .bind (.onError (transferAllocate_keeps remote.toQuiet) fun _ => deviceRelease_keeps remote) fun _ =>
      .bind (updateDevice_keeps remote) fun _ => .bind (updatePort_keeps remote) fun _ =>
        .bind (updateEnum_keeps remote) fun _ => updateEnum_keeps remote

theorem enumerationProcess_keeps : Keeps I (enumerationProcess c hcd p) := by
  refine .bind .read fun h => .bind .reject fun _ => .ite (fun _ => .pure) fun _ => ?_
  split
  · exact enumControlSubmit_keeps remote
  · exact enumWaitForTransfer_keeps remote (enumDeviceHeaderComplete_keeps remote)
  · refine .bind .read fun h => ?_
    split
    · exact enumFail_keeps remote
    · exact enumControlSubmit_keeps remote
  · exact enumWaitForTransfer_keeps remote (enumSetAddressComplete_keeps remote)
  · exact .ite (fun _ => updateEnum_keeps remote) fun _ => .bind (updateEnum_keeps remote)
      fun _ => enumControlSubmit_keeps remote
  · exact enumControlSubmit_keeps remote
  · exact enumWaitForTransfer_keeps remote (enumDeviceFullComplete_keeps remote)
  · exact enumControlSubmit_keeps remote
  · exact enumWaitForTransfer_keeps remote (enumConfigHeaderComplete_keeps remote)
  · exact .bind .read fun _ => enumControlSubmit_keeps remote
  · exact enumWaitForTransfer_keeps remote (enumConfigFullComplete_keeps remote)
  · exact .bind .read fun _ => enumControlSubmit_keeps remote
  · exact enumWaitForTransfer_keeps remote (enumSetConfigurationComplete_keeps remote)
  · exact .pure

theorem enumerationAbort_keeps : Keeps I (enumerationAbort c hcd p) :=
  .bind .read fun _ => .ite (fun _ => .pure) fun _ => .bind (enumTransferRelease_keeps remote).ignore fun _ =>
    .bind (updateEnum_keeps remote) fun _ => updateEnum_keeps remote

theorem portDisconnectCleanup_keeps : Keeps I (portDisconnectCleanup c hcd p) :=
  .bind ready_keeps fun _ => .bind .read fun _ => .bind .reject fun _ =>
    .bind (.forEach fun _ => .bind .read fun _ => .onlyIf (deviceRelease_keeps remote)) fun _ =>
      .bind (enumerationAbort_keeps remote) fun _ => updatePort_keeps remote

theorem hcdPortEventHandle_keeps {event : PortEvent} : Keeps I (hcdPortEventHandle c hcd p event) := by
  refine .bind .read fun h => .ite (fun _ => .pure) fun _ => ?_
  split
  · exact Keeps.ignore <| .bind .read fun _ => .bind .reject fun _ => .ite (fun _ => .pure) fun _ =>
      .bind (updatePort_keeps remote) fun _ => updatePort_keeps remote
  · exact (portDisconnectCleanup_keeps remote).ignore
  · exact Keeps.ignore <| .bind .read fun _ => .bind .reject fun _ => updatePort_keeps remote
  · exact Keeps.ignore <| .bind .read fun _ => .bind .reject fun _ => updatePort_keeps remote
  · exact Keeps.ignore <| .bind .read fun _ => .bind .reject fun _ => .onlyIf (updatePort_keeps remote)
  · exact Keeps.ignore <| .bind .read fun _ => .bind .reject fun _ => updatePort_keeps remote

theorem portAsk_keeps {α : Type} {m : HostM α} (asks : Keeps I m) : Keeps I (portAsk p m) :=
  .onError asks fun _ => updatePort_keeps remote

theorem rootPortProcessConnected_keeps : Keeps I (rootPortProcessConnected c hcd p) :=
  .bind (portAsk_keeps remote (ask_keeps remote.toQuiet fun _ => by simp)) fun _ => .bind .read fun _ =>
    .ite (fun _ => updatePort_keeps remote) fun _ => .ite (fun _ => portDisconnectCleanup_keeps remote) fun _ =>
      .ite (fun _ => updatePort_keeps remote) fun _ =>
        .bind (portAsk_keeps remote (ask_keeps remote.toQuiet fun _ => by simp)) fun _ => updatePort_keeps remote

theorem rootPortProcessPowered_keeps : Keeps I (rootPortProcessPowered hcd p) :=
  .bind (portAsk_keeps remote (ask_keeps remote.toQuiet fun _ => by simp)) fun _ => updatePort_keeps remote

theorem rootPortProcessResetting_keeps : Keeps I (rootPortProcessResetting c hcd p) :=
  .bind .read fun _ => .ite (fun _ => .pure) fun _ =>
    .bind (portAsk_keeps remote (ask_keeps remote.toQuiet fun _ => by simp)) fun _ =>
      .ite (fun _ => portDisconnectCleanup_keeps remote) fun _ => .ite (fun _ => updatePort_keeps remote) fun _ =>
        updatePort_keeps remote

theorem rootPortProcessEnabled_keeps : Keeps I (rootPortProcessEnabled c hcd p) :=
  .bind (portAsk_keeps remote (enumerationStart_keeps remote)) fun _ => updatePort_keeps remote

theorem rootPortProcess_keeps : Keeps I (rootPortProcess c hcd p) := by
  refine .bind .read fun h => ?_
  split
  · exact rootPortProcessConnected_keeps remote
  · exact rootPortProcessPowered_keeps remote
  · exact rootPortProcessResetting_keeps remote
  · exact rootPortProcessEnabled_keeps remote
  · exact enumerationProcess_keeps remote
  · exact enumerationProcess_keeps remote
  · exact .pure

theorem hcdTransferEvent_keeps {t n : Nat} {event : TransferEvent} {bytes : List UInt8} :
    Keeps I (hcdTransferEvent c hcd t event n bytes) :=
  hcdTransferEvent_frame remote.toQuiet remote.controlBuffer

end Remote

end XSDK.Usbh
