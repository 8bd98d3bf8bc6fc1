import XSDK.Library.Runs
import XSDK.Usbh.Frame

/-! The host stack from its start on: what the application calls and what the controller
reports, in any order. -/
namespace XSDK.Usbh

open Library Library.Call

inductive Op
  | process
  | portEvent (port : Nat) (event : PortEvent)
  | transferEvent (slot : Nat) (event : TransferEvent) (actualLength : Nat) (bytes : List UInt8)
  | mscReadBlocks (lun lba blockCount : Nat) (buffer : Option Nat) (bufferLength : Nat)
  | mscWriteBlocks (lun lba blockCount : Nat) (buffer : Option Nat) (bufferLength : Nat)
  | mscInquiry (lun : Nat) (buffer : Option Nat) (bufferLength : Nat)
  | mscReadCapacity (lun capacity : Nat)
  | mscTestUnitReady (lun : Nat)
  | mscRequestSense (lun : Nat) (buffer : Option Nat) (bufferLength : Nat)
  | mscResetRecovery (lun : Nat)
  deriving DecidableEq

def callerBuffer : Option Nat → Buffer
  | some pointer => .caller pointer
  | none => .none

section Machine

variable (c : Config) (hcd : Hcd)

def call : Op → HostM Unit
  | .process => usbhProcess c hcd
  | .portEvent p event => hcdPortEventHandle c hcd p event
  | .transferEvent t event n bytes => hcdTransferEvent c hcd t event n bytes
  | .mscReadBlocks lun lba count buffer length => mscReadBlocks c hcd lun lba count (callerBuffer buffer) length
  | .mscWriteBlocks lun lba count buffer length => mscWriteBlocks c hcd lun lba count (callerBuffer buffer) length
  | .mscInquiry lun buffer length => mscInquiry c hcd lun (callerBuffer buffer) length
  | .mscReadCapacity lun capacity => mscReadCapacity c hcd lun capacity
  | .mscTestUnitReady lun => mscTestUnitReady c hcd lun
  | .mscRequestSense lun buffer length => mscRequestSense c hcd lun (callerBuffer buffer) length
  | .mscResetRecovery lun => mscResetRecovery c hcd lun

/-- The controller reports transfers that it was handed. -/
def machine : Machine Host Op (Except Error Unit) where
  allowed _ op := ∀ t event n bytes, op = .transferEvent t event n bytes → t < c.maxTransfers
  step h op := ((call c hcd op h).2, (call c hcd op h).1)

instance (h : Host) (op : Op) : Decidable ((machine c hcd).allowed h op) :=
  match op with
  | .transferEvent t _ _ _ => decidable_of_iff (t < c.maxTransfers)
      ⟨by rintro small _ _ _ _ ⟨⟩; exact small, fun all => all _ _ _ _ rfl⟩
  | .process => isTrue (by simp [machine])
  | .portEvent _ _ => isTrue (by simp [machine])
  | .mscReadBlocks _ _ _ _ _ => isTrue (by simp [machine])
  | .mscWriteBlocks _ _ _ _ _ => isTrue (by simp [machine])
  | .mscInquiry _ _ _ => isTrue (by simp [machine])
  | .mscReadCapacity _ _ => isTrue (by simp [machine])
  | .mscTestUnitReady _ => isTrue (by simp [machine])
  | .mscRequestSense _ _ _ => isTrue (by simp [machine])
  | .mscResetRecovery _ => isTrue (by simp [machine])

def registerClasses : List ClassDriver → HostM Unit
  | [] => pure ()
  | driver :: rest => registerClass c driver >>= fun _ => registerClasses rest

def boot (rootPortCount : Nat) (drivers : List ClassDriver) : HostM Unit := do
  usbhInit c rootPortCount
  registerClasses c drivers
  usbhStart hcd

def Booted (rootPortCount : Nat) (h : Host) :
    Prop := ∃ drivers, boot c hcd rootPortCount drivers Host.zero = (.ok (), h)

end Machine

def Host.idle (rootPortCount : Nat) (drivers : List ClassDriver) (log : List Record) : Host :=
  { Host.zero with
    lifecycleState := .started, hasHcd := true, rootPortCount := rootPortCount,
      isInitialized := true, isStarted := true,
    classRegistrations := drivers, log := log }

/-- An initialised host with so many drivers registered. -/
def Host.ready (rootPortCount : Nat) (drivers : List ClassDriver) : Host :=
  { Host.zero with
    lifecycleState := .initialized, rootPortCount := rootPortCount, isInitialized := true, classRegistrations := drivers }

variable {c : Config} {hcd : Hcd} {n : Nat} {h : Host}

variable {h' : Host}

theorem registerClasses_run {drivers before : List ClassDriver}
    (run : registerClasses c drivers (.ready n before) = (.ok (), h')) : ∃ after, h' = .ready n after := by
  induction drivers generalizing before with
  | nil =>
    cases run
    exact ⟨before, rfl⟩
  | cons driver rest ih =>
    have registered : registerClass c driver (.ready n before) = (.ok (), .ready n (before ++ [driver])) ∨
        ∃ e, registerClass c driver (.ready n before) = (.error e, .ready n before) := by
      simp only [registerClass, read_bind, id_eq]
      rw [reject_bind_neg _ (by simp [Host.ready]), reject_bind_neg _ (by simp [Host.ready, Host.zero])]
      by_cases listed : driver ∈ (Host.ready n before).classRegistrations
      · rw [reject_bind_pos _ listed]
        exact .inr ⟨_, rfl⟩
      · rw [reject_bind_neg _ listed]
        by_cases full : c.maxClassDrivers ≤ (Host.ready n before).classRegistrations.length
        · rw [reject_bind_pos _ full]
          exact .inr ⟨_, rfl⟩
        · rw [reject_bind_neg _ full]
          exact .inl rfl
    rcases registered with ok | ⟨e, failed⟩
    · rw [registerClasses, bind_ok _ ok] at run
      exact ih run
    · rw [registerClasses, bind_error _ failed] at run
      cases run

theorem hostHcdStart_run (run : hostHcdStart hcd h = (.ok (), h')) :
    h' = { h with hasHcd := true, log := .enableInterrupts :: .start :: .init :: h.log } := by
  simp only [hostHcdStart, note, read_bind, modify_bind, id_eq] at run
  rcases first : hcd.init h.log with e | u
  · simp only [first, finish_error, fail_bind] at run
    cases run
  · simp only [first, finish_ok, pure_bind, read_bind, modify_bind, id_eq] at run
    rcases second : hcd.start (.init :: h.log) with e | u
    · simp only [second, finish_error, onError_fail_bind] at run
      cases run
    · simp only [second, finish_ok, onError_pure, pure_bind, read_bind, modify_bind, id_eq] at run
      rcases third : hcd.enableInterrupts (.start :: .init :: h.log) with e | u
      · simp only [third, finish_error, onError_fail_bind] at run
        cases run
      · simp only [third, finish_ok, onError_pure, pure_bind] at run
        cases run
        rfl

theorem usbhStart_run {drivers : List ClassDriver} (run : usbhStart hcd (.ready n drivers) = (.ok (), h')) :
    h' = .idle n drivers [.enableInterrupts, .start, .init] := by
  simp only [usbhStart, read_bind, id_eq] at run
  rw [reject_bind_neg _ (by simp [Host.ready]), reject_bind_neg _ (by simp [Host.ready, Host.zero])] at run
  rcases started : hostHcdStart hcd (.ready n drivers) with ⟨e | u, h₁⟩
  · rw [bind_error _ started] at run
    cases run
  · rw [bind_ok _ started, hostHcdStart_run started] at run
    cases run
    rfl

theorem Booted.eq (booted : Booted c hcd n h) :
    (0 < n ∧ n ≤ c.maxRootPorts) ∧ ∃ drivers, h = .idle n drivers [.enableInterrupts, .start, .init] := by
  obtain ⟨drivers, run⟩ := booted
  simp only [boot, usbhInit] at run
  by_cases bad : n = 0 ∨ c.maxRootPorts < n
  · rw [reject_bind_pos _ bad] at run
    cases run
  · rw [reject_bind_neg _ bad] at run
    change (registerClasses c drivers >>= fun _ => usbhStart hcd) (.ready n []) = _ at run
    rcases regs : registerClasses c drivers (.ready n []) with ⟨_ | _, h₁⟩
    · rw [bind_error _ regs] at run
      cases run
    · obtain ⟨after, rfl⟩ := registerClasses_run regs
      rw [bind_ok _ regs] at run
      exact ⟨by omega, after, usbhStart_run run⟩

/-- What nothing changes after the start. -/
structure Up (n : Nat) (h : Host) : Prop where
  initialized : h.isInitialized = true
  started : h.isStarted = true
  hcd : h.hasHcd = true
  ports : h.rootPortCount = n

theorem Up.frame (up : Up n h)
    (same : (h'.isInitialized, h'.isStarted, h'.hasHcd, h'.rootPortCount) =
      (h.isInitialized, h.isStarted, h.hasHcd, h.rootPortCount)) : Up n h' := by
  simp only [Prod.mk.injEq] at same
  obtain ⟨initialized, started, hcd, ports⟩ := same
  exact ⟨initialized ▸ up.1, started ▸ up.2, hcd ▸ up.3, ports ▸ up.4⟩

theorem up_remote : Remote (Up n) where
  interfaces _ _ up := up.frame rfl
  endpoints _ _ up := up.frame rfl
  transfers _ _ up := up.frame rfl
  hid _ _ up := up.frame rfl
  msc _ _ up := up.frame rfl
  log _ _ _ up := up.frame rfl
  rootPorts _ _ up := up.frame rfl
  enumeration _ _ up := up.frame rfl
  devices _ _ up := up.frame rfl
  controlBuffer _ _ up := up.frame rfl

theorem call_keeps {I : Host → Prop} (remote : Remote I)
    (stepped : ∀ h p, I h → I { h with log := .stepped p :: h.log })
    (op : Op) : Keeps I (call c hcd op) := by
  cases op with
  | process =>
    exact .bind .read fun _ => .bind .reject fun _ => .bind .reject fun _ => .bind .read fun _ =>
      .forEach fun p => .bind (.modify fun h kept => stepped h p kept) fun _ => rootPortProcess_keeps remote
  | portEvent p event => exact hcdPortEventHandle_keeps remote
  | transferEvent t event n bytes => exact hcdTransferEvent_keeps remote
  | mscReadBlocks lun lba count buffer length => exact mscBlockOperationStart_keeps remote.toQuiet
  | mscWriteBlocks lun lba count buffer length => exact mscBlockOperationStart_keeps remote.toQuiet
  | mscInquiry lun buffer length =>
    exact .bind .reject fun _ => .bind .reject fun _ => mscScsiCommandStart_keeps remote.toQuiet
  | mscReadCapacity lun capacity => exact mscReadCapacity_keeps remote.toQuiet
  | mscTestUnitReady lun => exact mscScsiCommandStart_keeps remote.toQuiet
  | mscRequestSense lun buffer length =>
    exact .bind .reject fun _ => .bind .reject fun _ => mscScsiCommandStart_keeps remote.toQuiet
  | mscResetRecovery lun => exact mscResetRecovery_keeps remote.toQuiet

theorem Booted.up (booted : Booted c hcd n h) : Up n h := by
  obtain ⟨-, drivers, rfl⟩ := booted.eq
  exact ⟨rfl, rfl, rfl, rfl⟩

theorem run_up {start : Host} {trace : List (Transition Host Op (Except Error Unit))} (booted : Booted c hcd n start)
    (run : (machine c hcd).Run start trace h) : Up n h :=
  run.invariant booted.up fun _ op up _ =>
    (call_keeps up_remote (fun _ _ up => up.frame rfl) op).after up

end XSDK.Usbh
