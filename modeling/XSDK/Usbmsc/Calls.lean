import XSDK.Usbmsc.Stages

/-! The driver's calls over whole runs: a call that succeeds has had its own command done, and
one that fails leaves nothing in the host stack that leads to its buffer. -/
namespace XSDK.Usbmsc

open Library Library.Call Usbh
open Function (update)

inductive Request
  | init (pointer : Nat)
  | readSector (lba : Nat) (buffer : Option Nat) (sectorCount : Nat)
  | writeSector (lba : Nat) (buffer : Option Nat) (sectorCount : Nat)

inductive BlockOp
  | call (request : Request) (polls : Nat → Poll)
  | between (after : Host)

/-- The memory that a request lends to the stack: its buffer, or its capacity variable. -/
def Request.pointer : Request → Option Nat
  | .init pointer => some pointer
  | .readSector _ buffer _ => buffer
  | .writeSector _ buffer _ => buffer

/-- The command of a request, with the next tag of its instance. -/
def Request.command (k tag lun : Nat) : Request → Command
  | .init pointer =>
    ⟨mscCbw tag lun 8 [0x25, 0, 0, 0, 0, 0, 0, 0, 0, 0] true, tag, .mscCapacity k, 8, true, 0x25, some pointer⟩
  | .readSector lba buffer sectorCount =>
    ⟨mscCbw tag lun (sectorCount * 512) (blockCommand lba sectorCount true) true, tag, callerBuffer buffer, sectorCount * 512, true,
      0x28, none⟩
  | .writeSector lba buffer sectorCount =>
    ⟨mscCbw tag lun (sectorCount * 512) (blockCommand lba sectorCount false) false, tag, callerBuffer buffer, sectorCount * 512,
      false, 0x2A, none⟩

/-- The checks of the driver before it starts a command. -/
def Request.passes (a : Adapter) : Request → Prop
  | .init _ => usbmscContextIsValid a = true
  | .readSector lba buffer sectorCount => buffer ≠ none ∧ usbmscValidateIo a lba sectorCount = .ok ()
  | .writeSector lba buffer sectorCount => buffer ≠ none ∧ usbmscValidateIo a lba sectorCount = .ok ()

/-- Nothing in the stack leads to a caller's memory. -/
structure Sound (c : Config) (h : Host) : Prop where
  standing : Standing c h
  instances : ∀ k, SilentInstance (h.msc k)
  transfers : ∀ t, SilentTransfer (h.transfers t)

section Machine

variable (c : Config) (hcd : Hcd)

def Request.start (lun : Nat) : Request → HostM Unit
  | .init pointer => mscReadCapacity c hcd lun pointer
  | .readSector lba buffer sectorCount => mscReadBlocks c hcd lun lba sectorCount
      (callerBuffer buffer) (sectorCount * 512)
  | .writeSector lba buffer sectorCount => mscWriteBlocks c hcd lun lba sectorCount
      (callerBuffer buffer) (sectorCount * 512)

def Request.run (polls : Nat → Poll) : Request → BlockM Unit
  | .init pointer => usbmscInit c hcd pointer polls
  | .readSector lba buffer sectorCount => usbmscReadSector c hcd lba buffer sectorCount polls
  | .writeSector lba buffer sectorCount => usbmscWriteSector c hcd lba buffer sectorCount polls

/-- The request has started its command on the instance in slot k. -/
structure Started (b : Block) (request : Request) (k : Nat) (h₁ : Host) : Prop where
  passes : request.passes b.adapter
  found : usbmscInstanceGet c b = some k
  run : request.start c hcd b.adapter.lun b.host = (.ok (), h₁)

def pollsMade (k : Nat) (polls : Nat → Poll) : Nat → Nat → Host → List PollEvent
  | 0, _, _ => []
  | left + 1, pollCount, h =>
    if (h.msc k).state = .ready ∨ (h.msc k).state = .error ∨ (h.msc k).state = .resetRecovery then []
    else if (polls pollCount).fails = true then (polls pollCount).events
    else (polls pollCount).events ++
      pollsMade k polls left (pollCount + 1) ((pollMachine c hcd k).play h (polls pollCount).events)

def waited (b : Block) (polls : Nat → Poll) (k : Nat) (h₁ : Host) : List PollTransition :=
  (pollMachine c hcd k).transitions h₁ (pollsMade c hcd k polls b.adapter.maxPollCount 0 h₁)

def blockMachine : Machine Block BlockOp (Except FsError Unit) where
  allowed b
    | .call request polls => ∀ k h₁, Started c hcd b request k h₁ →
      (pollMachine c hcd k).Legal h₁ (pollsMade c hcd k polls b.adapter.maxPollCount 0 h₁)
    | .between after => Sound c after
  step b
    | .call request polls => ((request.run c hcd polls b).2, (request.run c hcd polls b).1)
    | .between after => ({ b with host := after }, .ok ())

abbrev BlockTransition := Transition Block BlockOp (Except FsError Unit)

/-- No submitted transfer and no instance leads to the memory at a pointer. -/
structure Unreferenced (pointer : Nat) (h : Host) : Prop where
  data : ∀ k, (h.msc k).dataBuffer ≠ .caller pointer
  capacity : ∀ k, (h.msc k).capacity ≠ some pointer
  transfers : ∀ t, (h.transfers t).isSubmitted = true → (h.transfers t).data ≠ .caller pointer

structure CallLaw (s : BlockTransition) (request : Request) (polls : Nat → Poll) : Prop where
  done : s.output = .ok () → ∃ k h₁ capacityBuffer, Started c hcd s.pre request k h₁ ∧
    Answered k (request.command k (s.pre.host.msc k).nextTag s.pre.adapter.lun)
      (waited c hcd s.pre polls k h₁) capacityBuffer ∧
    ∀ pointer, request = .init pointer →
      (s.post.adapter.sectorCount, s.post.adapter.sectorSize) = capacityOf capacityBuffer
  failed : s.output ≠ .ok () → ∀ pointer, request.pointer = some pointer → Unreferenced pointer s.post.host

def Law (s : BlockTransition) : Prop := ∀ request polls, s.input = .call request polls → CallLaw c hcd s request polls

/-- The blocks of the instance are not smaller than the driver's sectors. -/
def Request.Fits (h : Host) (k : Nat) : Request → Prop
  | .init _ => True
  | _ => 512 ≤ (h.msc k).blockSize

/-- The command is over when the driver stops to wait, and no other instance has come into its slot. -/
structure Concluded (s : BlockTransition) (request : Request) (polls : Nat → Poll) (k : Nat) (h₁ : Host) : Prop where
  finished : courseOf hcd k (waited c hcd s.pre polls k h₁) = .finished
  unfilled : ∀ event ∈ waited c hcd s.pre polls k h₁, Unfilled c k event

def Proper (s : BlockTransition) : Prop :=
  ∀ request polls, s.input = .call request polls → ∀ k h₁, Started c hcd s.pre request k h₁ →
    request.Fits s.pre.host k ∧ Concluded c hcd s request polls k h₁

end Machine

variable {c : Config} {hcd : Hcd} {k i t n : Nat} {h : Host} {command : Command} {b : Block}
    {request : Request} {polls : Nat → Poll}

theorem Sound.reserved (sound : Sound c h) : Reserved c k h :=
  ⟨sound.standing, fun k' _ => sound.instances k', fun t _ => sound.transfers t⟩

theorem Sound.unreferenced (sound : Sound c h) (pointer : Nat) : Unreferenced pointer h where
  data k := (sound.instances k).data pointer
  capacity k := by
    rw [(sound.instances k).capacity]
    exact nofun
  transfers t submitted := sound.transfers t submitted pointer

theorem Reserved.sound (reserved : Reserved c k h) (free : (h.msc k).transfer = none)
    (silent : SilentInstance (h.msc k)) : Sound c h where
  standing := reserved.standing
  instances k' := by
    by_cases here : k' = k
    · rw [here]
      exact silent
    · exact reserved.instances k' here
  transfers t := reserved.transfers t (by rw [free]; exact nofun)

/- The start of a command. -/

theorem usbmscInstanceGet_seat (standing : Standing c b.host) (found : usbmscInstanceGet c b = some k) :
    b.adapter.lun = 0 ∧ k < c.mscMaxInstances ∧ (b.host.msc k).isAllocated = true ∧ ∃ i, Seat c k i b.host := by
  obtain ⟨small, both⟩ := firstWith_some found
  simp only [Bool.and_eq_true, decide_eq_true_eq] at both
  obtain ⟨taken, number⟩ := both
  have zero : b.adapter.lun = 0 := number.symm.trans (standing.luns k small taken)
  obtain ⟨i, seated⟩ := standing.seats k small taken
  refine ⟨zero, small, taken, i, seated, fun l => ?_⟩
  by_cases first : l = 0
  · rw [if_pos first, ← found, first, ← zero]
    rfl
  · rw [if_neg first]
    rcases there : mscInstanceFindByLun c b.host l with _ | j
    · rfl
    · obtain ⟨small', both⟩ := firstWith_some there
      simp only [Bool.and_eq_true, decide_eq_true_eq] at both
      exact absurd ((standing.luns j small' both.1).symm.trans both.2).symm first

theorem begun_stands {x : MscInstance} {capacity : Option Nat} {r : Except Usbh.Error Unit × Host} (sound : Sound c h)
    (taken : (h.msc k).isAllocated = true) (free : (h.msc k).transfer = none)
    (begun : Begun c hcd k h x capacity .command .ready t r) (same : x.seat = (h.msc k).seat)
    (counter : x.nextTag < 2 ^ 32) (holds : x.transfer = some t) :
    (r.1 = .ok () → Running c k (commandOf { x with capacity := capacity }) h [] r.2) ∧
    (r.1 ≠ .ok () → Sound c r.2) := by
  have own : ∀ t', (h.msc k).transfer = some t' → t' = t := fun t' holds' => absurd (free.symm.trans holds') nofun
  obtain ⟨small, -, y, allocated, ⟨-, rfl⟩ | ⟨e, -, rfl⟩⟩ := begun
  · refine ⟨fun _ => ⟨?_, ?_, ?_, ⟨t, ?_, ⟨small, ?_, ?_⟩, ?_⟩, ?_⟩, fun failed => absurd rfl failed⟩
    · exact sound.reserved.turned (x := { x with state := .command, capacity := capacity }) same counter own (.inl holds) _
    · rw [Host.turned_msc]
      exact (seat_fields same).1.trans taken
    · rw [Host.turned_msc]
      rfl
    · rw [Host.turned_msc]
      exact holds
    · rw [Host.turned_transfers]
      exact allocated
    · rw [Host.turned_transfers]
    · rw [Host.turned_msc]
      exact .command rfl
    · exact .push (r := .submit t y) rfl fun _ => rfl
  · refine ⟨fun done => absurd done nofun, fun _ => ?_⟩
    refine Reserved.sound (k := k) ?_ ?_ ?_
    · exact sound.reserved.turned (x := { x.forgotten with state := .ready }) same counter own (.inr silent_zero) _
    · rw [Host.turned_msc]
      rfl
    · rw [Host.turned_msc]
      exact ⟨fun _ => nofun, rfl⟩

theorem mscBlockOperationStart_stands (sound : Sound c h) (taken : (h.msc k).isAllocated = true)
    (seat : Seat c k i h) {lun lba count : Nat} {buffer : Buffer} (some : count ≠ 0) (isRead : Bool) :
    let r := mscBlockOperationStart c hcd lun lba count buffer (count * 512) isRead h
    (r.1 = .ok () → 512 ≤ (h.msc k).blockSize → Running c k
      ⟨mscCbw (h.msc k).nextTag lun (count * 512) (blockCommand lba count isRead) isRead, (h.msc k).nextTag, buffer, count * 512, isRead,
        if isRead = true then 0x28 else 0x2A, none⟩ h [] r.2) ∧ (r.1 ≠ .ok () → Sound c r.2) := by
  rcases mscBlockOperationStart_effect hcd seat lun lba count buffer (count * 512) isRead with
    ⟨e, run⟩ | ⟨ready, ⟨-, fits⟩, t, begun⟩
  · rw [run]
    exact ⟨fun done => absurd done nofun, fun _ => sound⟩
  · obtain ⟨started, refused⟩ := begun_stands sound taken ready.2 begun rfl (mscNextTag_lt _) rfl
    refine ⟨fun done large => ?_, refused⟩
    have size : (h.msc k).blockSize = 512 := by
      have small := Nat.le_of_mul_le_mul_left fits (Nat.pos_of_ne_zero some)
      omega
    have same : commandOf { (h.msc k).commanded t lun (blockCommand lba count isRead) buffer (count * (h.msc k).blockSize) isRead with
        capacity := (h.msc k).capacity } =
        ⟨mscCbw (h.msc k).nextTag lun (count * 512) (blockCommand lba count isRead) isRead, (h.msc k).nextTag, buffer, count * 512, isRead,
          if isRead = true then 0x28 else 0x2A, none⟩ := by
      rw [size, (sound.instances k).capacity]
      cases isRead with
      | true => rfl
      | false => rfl
    rw [← same]
    exact started done

theorem mscReadCapacity_stands (hcd : Hcd) (sound : Sound c h) (taken : (h.msc k).isAllocated = true)
    (seat : Seat c k i h) (lun pointer : Nat) :
    let r := mscReadCapacity c hcd lun pointer h
    (r.1 = .ok () → Running c k ((Request.init pointer).command k (h.msc k).nextTag lun) h [] r.2) ∧
      (r.1 ≠ .ok () → Sound c r.2) := by
  rcases mscReadCapacity_effect hcd seat lun pointer with ⟨e, run, -⟩ | ⟨ready, t, begun⟩
  · rw [run]
    exact ⟨fun done => absurd done nofun, fun _ => sound⟩
  · obtain ⟨started, refused⟩ := begun_stands sound taken ready.2 begun rfl (mscNextTag_lt _) rfl
    exact ⟨fun done => started done, refused⟩

variable {lba sectorCount : Nat} {h₁ : Host}

theorem usbmscValidateIo_ok {a : Adapter} (valid : usbmscValidateIo a lba sectorCount = .ok ()) :
    sectorCount ≠ 0 := by
  rintro rfl
  rw [usbmscValidateIo] at valid
  split at valid
  · cases valid
  · cases valid

theorem start_stands (hcd : Hcd) (sound : Sound c b.host) (passes : request.passes b.adapter)
    (found : usbmscInstanceGet c b = some k) :
    let r := request.start c hcd b.adapter.lun b.host
    (r.1 = .ok () → request.Fits b.host k →
      Running c k (request.command k (b.host.msc k).nextTag b.adapter.lun) b.host [] r.2) ∧
      (r.1 ≠ .ok () → Sound c r.2) := by
  obtain ⟨-, -, taken, i, seat⟩ := usbmscInstanceGet_seat sound.standing found
  cases request with
  | init pointer =>
    obtain ⟨started, refused⟩ := mscReadCapacity_stands hcd sound taken seat b.adapter.lun pointer
    exact ⟨fun done _ => started done, refused⟩
  | readSector lba buffer count =>
    exact mscBlockOperationStart_stands sound taken seat (usbmscValidateIo_ok passes.2) true
  | writeSector lba buffer count =>
    exact mscBlockOperationStart_stands sound taken seat (usbmscValidateIo_ok passes.2) false

/- The wait. -/

theorem poll_run (c : Config) (hcd : Hcd) (k : Nat) (b : Block) (p : Poll) : poll c hcd k p b =
    (if p.fails = true then .error .io else .ok (), { b with host := (pollMachine c hcd k).play b.host p.events }) := by
  simp only [poll, modify_bind]
  by_cases fails : p.fails = true
  · rw [reject_pos fails, if_pos fails]
    rfl
  · rw [reject_neg fails, if_neg fails]
    rfl

/-- The wait makes its polls, and succeeds only with a ready instance that has no error. -/
theorem usbmscWaitReady_run (c : Config) (hcd : Hcd) (k : Nat) (polls : Nat → Poll) (left pollCount : Nat) (b : Block) :
    (usbmscWaitReady c hcd k polls left pollCount b).2 =
        { b with host := (pollMachine c hcd k).play b.host (pollsMade c hcd k polls left pollCount b.host) } ∧
      ((usbmscWaitReady c hcd k polls left pollCount b).1 = .ok () →
        ((usbmscWaitReady c hcd k polls left pollCount b).2.host.msc k).state = .ready) := by
  induction left generalizing pollCount b with
  | zero => exact ⟨rfl, fun done => absurd done nofun⟩
  | succ left ih =>
    rw [usbmscWaitReady, read_bind, pollsMade]
    by_cases ready : (b.host.msc k).state = .ready
    · have still : (b.host.msc k).state = .ready ∨ (b.host.msc k).state = .error ∨
          (b.host.msc k).state = .resetRecovery := .inl ready
      rw [if_pos ready, if_pos still]
      split
      · exact ⟨rfl, fun _ => ready⟩
      · exact ⟨rfl, fun done => absurd done nofun⟩
    by_cases failed : (b.host.msc k).state = .error ∨ (b.host.msc k).state = .resetRecovery
    · have still : (b.host.msc k).state = .ready ∨ (b.host.msc k).state = .error ∨
          (b.host.msc k).state = .resetRecovery := .inr failed
      rw [if_neg ready, if_pos failed, if_pos still]
      exact ⟨rfl, fun done => absurd done nofun⟩
    have going : ¬((b.host.msc k).state = .ready ∨ (b.host.msc k).state = .error ∨ (b.host.msc k).state = .resetRecovery) := by
      rintro (state | state)
      · exact ready state
      · exact failed state
    rw [if_neg ready, if_neg failed, if_neg going]
    have polled := poll_run c hcd k b (polls pollCount)
    by_cases fails : (polls pollCount).fails = true
    · rw [if_pos fails] at polled
      rw [bind_error _ polled, if_pos fails]
      exact ⟨rfl, fun done => absurd done nofun⟩
    · rw [if_neg fails] at polled
      rw [bind_ok _ polled, if_neg fails, Machine.play_append]
      exact ih (pollCount + 1) { b with host := (pollMachine c hcd k).play b.host (polls pollCount).events }

/- The calls. -/

theorem hostCall_run {m : HostM Unit} {r : Except Usbh.Error Unit} (run : m b.host = (r, h₁)) :
    hostCall m b = (.ok r, { b with host := h₁ }) := by
  rw [hostCall, run]

def CallOutcome (c : Config) (hcd : Hcd) (b : Block) (request : Request) (polls : Nat → Poll)
    (r : Except FsError Unit × Block) : Prop :=
  (r.1 ≠ .ok () ∧ Sound c r.2.host) ∨ ∃ k h₁, Started c hcd b request k h₁ ∧
    r.2.host = (pollMachine c hcd k).play h₁ (pollsMade c hcd k polls b.adapter.maxPollCount 0 h₁) ∧
    (r.1 = .ok () → (r.2.host.msc k).state = .ready ∧ ∀ pointer, request = .init pointer →
      (r.2.adapter.sectorCount, r.2.adapter.sectorSize) = capacityWritten pointer b.host r.2.host)

theorem usbmscSectors_outcome {start : Nat → HostM Unit} {buffer : Option Nat} (sound : Sound c b.host)
    (starts : start b.adapter.lun = request.start c hcd b.adapter.lun) (sectors : ∀ pointer, request ≠ .init pointer)
    (passes : buffer ≠ none → usbmscValidateIo b.adapter lba sectorCount = .ok () → request.passes b.adapter) :
    CallOutcome c hcd b request polls (usbmscSectors c hcd start lba buffer sectorCount polls b) := by
  rw [usbmscSectors]
  by_cases missing : buffer = none
  · rw [reject_bind_pos _ missing]
    exact .inl ⟨nofun, sound⟩
  rw [reject_bind_neg _ missing, read_bind, id_eq]
  rcases valid : usbmscValidateIo b.adapter lba sectorCount with e | ⟨⟩
  · exact .inl ⟨nofun, sound⟩
  rw [finish_ok, pure_bind]
  rcases found : usbmscInstanceGet c b with _ | k
  · exact .inl ⟨nofun, sound⟩
  have passed := passes missing valid
  obtain ⟨-, refused⟩ := start_stands hcd sound passed found
  rw [← starts] at refused
  dsimp only
  rcases run : start b.adapter.lun b.host with ⟨e | ⟨⟩, h₁⟩
  · rw [run] at refused
    rw [bind_ok _ (hostCall_run run)]
    exact .inl ⟨nofun, refused nofun⟩
  · rw [bind_ok _ (hostCall_run run)]
    obtain ⟨waits, done⟩ := usbmscWaitReady_run c hcd k polls b.adapter.maxPollCount 0
      { b with host := h₁ }
    refine .inr ⟨k, h₁, ⟨passed, found, by rw [← starts, run]⟩, congrArg Block.host waits, fun ok => ⟨done ok, fun pointer same => ?_⟩⟩
    exact absurd same (sectors pointer)

theorem usbmscCapacityRefresh_found (hcd : Hcd) (pointer : Nat) (polls : Nat → Poll)
    (found : usbmscInstanceGet c b = some k) :
    usbmscCapacityRefresh c hcd pointer polls b =
      (hostCall (mscReadCapacity c hcd b.adapter.lun pointer) >>= fun status => match status with
        | .error _ => mediaGone >>= fun _ => fail .io
        | .ok () => onError (usbmscWaitReady c hcd k polls b.adapter.maxPollCount 0) (fun _ => mediaGone) >>= fun _ =>
          read (fun b' : Block => capacityWritten pointer b.host b'.host) >>= fun capacity =>
            if capacity.2 ≠ 512 ∨ capacity.1 = 0 then mediaGone >>= fun _ => fail .invalidVolume
            else updateAdapter fun a => { a with sectorCount := capacity.1, sectorSize := capacity.2, isMediaPresent := true })
        b := by
  rw [usbmscCapacityRefresh, read_bind, id_eq]
  generalize usbmscInstanceGet c b = slot at found ⊢
  subst found
  rfl

theorem usbmscInit_outcome (hcd : Hcd) (sound : Sound c b.host) (pointer : Nat) (polls : Nat → Poll) :
    CallOutcome c hcd b (.init pointer) polls (usbmscInit c hcd pointer polls b) := by
  rw [usbmscInit, read_bind, id_eq]
  by_cases invalid : usbmscContextIsValid b.adapter = false
  · rw [reject_bind_pos _ invalid]
    exact .inl ⟨by rintro ⟨⟩, sound⟩
  rw [reject_bind_neg _ invalid, updateAdapter, modify_bind]
  let a : Adapter := { b.adapter with isInitialized := false, isMediaPresent := false, sectorCount := 0, sectorSize := 0 }
  let cleared : Block := { b with adapter := a }
  have same : ({ b with
      adapter := { b.adapter with isInitialized := false, isMediaPresent := false, sectorCount := 0, sectorSize := 0 } } : Block) = cleared := rfl
  rw [same]
  have valid : usbmscContextIsValid b.adapter = true := by simpa using invalid
  have passes : (Request.init pointer).passes b.adapter := valid
  rcases found : usbmscInstanceGet c b with _ | k
  · have gone : usbmscCapacityRefresh c hcd pointer polls cleared =
        (.error .io, { b with adapter := { a with isMediaPresent := false } }) := by
      rw [usbmscCapacityRefresh, read_bind, id_eq, show usbmscInstanceGet c cleared = none from found]
      rfl
    rw [bind_error _ gone]
    exact .inl ⟨by rintro ⟨⟩, sound⟩
  obtain ⟨-, refused⟩ := start_stands hcd sound passes found
  have refresh := usbmscCapacityRefresh_found (b := cleared) hcd pointer polls found
  rcases run : mscReadCapacity c hcd b.adapter.lun pointer b.host with ⟨e | ⟨⟩, h₁⟩
  · have failed : usbmscCapacityRefresh c hcd pointer polls cleared =
        (.error .io, { host := h₁, adapter := { a with isMediaPresent := false } }) := by
      rw [refresh, bind_ok _ (hostCall_run (b := cleared) run)]
      rfl
    rw [bind_error _ failed]
    rw [show (Request.init pointer).start c hcd b.adapter.lun b.host = (.error e, h₁) from run] at refused
    exact .inl ⟨by rintro ⟨⟩, refused (fun done => absurd done (by rintro ⟨⟩))⟩
  · have started : Started c hcd b (.init pointer) k h₁ := ⟨passes, found, run⟩
    rw [bind_ok _ (hostCall_run (b := cleared) run)] at refresh
    obtain ⟨waits, done⟩ := usbmscWaitReady_run c hcd k polls b.adapter.maxPollCount 0
      { cleared with host := h₁ }
    dsimp only at refresh
    let final := (pollMachine c hcd k).play h₁ (pollsMade c hcd k polls b.adapter.maxPollCount 0 h₁)
    rcases wait : usbmscWaitReady c hcd k polls b.adapter.maxPollCount 0 { cleared with host := h₁ } with ⟨e | ⟨⟩, b'⟩
    · rw [wait] at waits
      rw [bind_error (e := e) _ (onError_error _ wait)] at refresh
      rw [bind_error _ refresh]
      exact .inr ⟨k, h₁, started, congrArg Block.host waits, fun ok => absurd ok (by rintro ⟨⟩)⟩
    · rw [wait] at waits done
      rw [bind_ok (a := ()) _ (onError_ok _ wait), read_bind] at refresh
      have ended : b'.host = final := congrArg Block.host waits
      by_cases bad : (capacityWritten pointer b.host b'.host).2 ≠ 512 ∨ (capacityWritten pointer b.host b'.host).1 = 0
      · rw [if_pos bad] at refresh
        have failed : usbmscCapacityRefresh c hcd pointer polls cleared =
            (.error .invalidVolume, { b' with adapter := { b'.adapter with isMediaPresent := false } }) := refresh
        rw [bind_error _ failed]
        exact .inr ⟨k, h₁, started, ended, fun ok => absurd ok (by rintro ⟨⟩)⟩
      · rw [if_neg bad] at refresh
        have set : usbmscCapacityRefresh c hcd pointer polls cleared = (.ok (), { b' with
            adapter := { b'.adapter with
              sectorCount := (capacityWritten pointer b.host b'.host).1,
              sectorSize := (capacityWritten pointer b.host b'.host).2, isMediaPresent := true } }) := refresh
        rw [bind_ok _ set]
        refine .inr ⟨k, h₁, started, ended, fun _ => ⟨done rfl, fun pointer' eq => ?_⟩⟩
        injection eq with eq
        rw [← eq]
        rfl

theorem request_outcome (hcd : Hcd) (sound : Sound c b.host) (request : Request) (polls : Nat → Poll) :
    CallOutcome c hcd b request polls (request.run c hcd polls b) := by
  cases request with
  | init pointer => exact usbmscInit_outcome hcd sound pointer polls
  | readSector lba buffer sectorCount =>
    exact usbmscSectors_outcome sound rfl (fun _ => nofun) fun some valid => ⟨some, valid⟩
  | writeSector lba buffer sectorCount =>
    exact usbmscSectors_outcome sound rfl (fun _ => nofun) fun some valid => ⟨some, valid⟩

theorem command_data {tag lun : Nat} (passes : request.passes b.adapter) : 0 < (request.command k tag lun).total := by
  cases request with
  | init pointer => exact Nat.succ_pos 7
  | readSector lba buffer sectorCount =>
    have some := usbmscValidateIo_ok passes.2
    change 0 < sectorCount * 512
    omega
  | writeSector lba buffer sectorCount =>
    have some := usbmscValidateIo_ok passes.2
    change 0 < sectorCount * 512
    omega

theorem command_tagged {tag : Nat} (small : tag < 2 ^ 32) (lun : Nat) (request : Request) :
    readLE32 (request.command k tag lun).cbw 4 = (request.command k tag lun).tag := by
  cases request with
  | init pointer => exact mscCbw_tag small ..
  | readSector lba buffer sectorCount => exact mscCbw_tag small ..
  | writeSector lba buffer sectorCount => exact mscCbw_tag small ..

theorem command_capacity (k tag lun : Nat) {pointer : Nat} (init : request = .init pointer) :
    (request.command k tag lun).capacity = some pointer ∧ (request.command k tag lun).opcode = 0x25 := by
  rw [init]
  exact ⟨rfl, rfl⟩

theorem Sound.call (sound : Sound c b.host) (allowed : (blockMachine c hcd).allowed b (.call request polls))
    (proper : Proper c hcd ((blockMachine c hcd).take b (.call request polls))) :
    Sound c (request.run c hcd polls b).2.host ∧
    CallLaw c hcd ((blockMachine c hcd).take b (.call request polls)) request polls := by
  rcases request_outcome hcd sound request polls with ⟨failed, after⟩ | ⟨k, h₁, started, ended, done⟩
  · exact ⟨after, fun ok => absurd ok failed, fun _ pointer _ => after.unreferenced pointer⟩
  · obtain ⟨fits, concluded⟩ := proper request polls rfl k h₁ started
    obtain ⟨running, -⟩ := start_stands hcd sound started.passes started.found
    rw [started.run] at running
    obtain ⟨-, small, -⟩ := usbmscInstanceGet_seat sound.standing started.found
    have stands := stands_run small (command_data started.passes)
      (command_tagged (sound.standing.counters k) b.adapter.lun request)
      (Machine.run_of_legal (allowed k h₁ started)) concluded.unfilled
      (running rfl fits)
    have finished : Over c k (request.command k (b.host.msc k).nextTag b.adapter.lun) b.host (waited c hcd b polls k h₁)
        (request.run c hcd polls b).2.host := by
      rw [ended]
      cases stands with
      | finished finished => exact finished
      | running course _ => exact absurd (course.symm.trans concluded.finished) nofun
      | stuck course _ => exact absurd (course.symm.trans concluded.finished) nofun
    have after : Sound c (request.run c hcd polls b).2.host := finished.reserved.sound finished.free finished.silent
    refine ⟨after, fun ok => ?_, fun _ pointer _ => after.unreferenced pointer⟩
    obtain ⟨ready, refreshed⟩ := done ok
    obtain ⟨capacityBuffer, answered, wrote⟩ := finished.passed ready
    refine ⟨k, h₁, capacityBuffer, started, answered, fun pointer init => ?_⟩
    obtain ⟨lends, opcode⟩ := command_capacity k (b.host.msc k).nextTag b.adapter.lun init
    exact (refreshed pointer init).trans (wrote pointer lends opcode).read

/-- In every run whose commands are over when their calls return, whose blocks are not smaller than
sectors, and in which no other instance comes into the slot of a command. -/
theorem calls_sound {start : Block} {trace : List BlockTransition} (sound : Sound c start.host)
    (run : (blockMachine c hcd).Run start trace b) (proper : ∀ s ∈ trace, Proper c hcd s) :
    ∀ s ∈ trace, Law c hcd s := by
  have both : Sound c b.host ∧ ∀ s ∈ trace, Law c hcd s := by
    refine run.throughout (P := fun b => Sound c b.host) proper sound fun b op sound allowed proper => ?_
    cases op with
    | call request polls =>
      obtain ⟨after, law⟩ := sound.call allowed proper
      refine ⟨after, fun request' polls' same => ?_⟩
      injection same with same same'
      rw [← same, ← same']
      exact law
    | between after => exact ⟨allowed, nofun⟩
  exact both.2

/- The disk of ten blocks, and a poll that fails while its capacity is read. -/

def sampleBlock : Block := ⟨sampleDiskStarted, ⟨2, 0, 0, 0, false, false⟩⟩

abbrev sampleDriver : Machine Block BlockOp (Except FsError Unit) := blockMachine sampleConfig sampleHcd

theorem sampleBlock_sound : Sound sampleConfig sampleBlock.host := by
  have seat := sampleDiskStarted_fresh.seat.toSeated
  have only : ∀ k < sampleConfig.mscMaxInstances, k = 0 := fun k small => by
    have one : sampleConfig.mscMaxInstances = 1 := rfl
    omega
  have rest : ∀ k, sampleBlock.host.msc (k + 1) = .zero := fun _ => rfl
  refine ⟨⟨seat.up, fun k small _ => ⟨0, only k small ▸ seat⟩, fun k small _ => ?_, fun k => ?_⟩, fun k => ?_, fun t submitted => ?_⟩
  · rw [only k small]
    decide +kernel
  · cases k with
    | zero => decide +kernel
    | succ k =>
      rw [rest]
      decide
  · cases k with
    | zero =>
      have none : (sampleBlock.host.msc 0).dataBuffer = .none := by decide +kernel
      refine ⟨fun pointer => ?_, by decide +kernel⟩
      rw [none]
      exact nofun
    | succ k =>
      rw [rest]
      exact ⟨fun _ => nofun, rfl⟩
  · have idle : (sampleBlock.host.transfers t).isSubmitted = false := rfl
    rw [idle] at submitted
    cases submitted

/-- The device takes the command, answers ten blocks of 512 bytes, and says that it has passed. -/
def sampleAnswers : List PollEvent :=
  [.completed .complete 31 [], .completed .complete 8 [0, 0, 0, 9, 0, 0, 2, 0], .completed .complete 13 (sampleStatus 0)]

def samplePolls : Nat → Poll := fun _ => ⟨sampleAnswers, false⟩

theorem sampleStarted_only {k : Nat} (started : Started sampleConfig sampleHcd sampleBlock (.init 7) k h₁) :
    k = 0 ∧ h₁ = (mscReadCapacity sampleConfig sampleHcd 0 7 sampleBlock.host).2 :=
  ⟨Option.some.inj (started.found.symm.trans (by decide +kernel)), (congrArg Prod.snd started.run).symm⟩

def sampleReading : Host := (mscReadCapacity sampleConfig sampleHcd 0 7 sampleBlock.host).2

theorem sampleMade : pollsMade sampleConfig sampleHcd 0 samplePolls 2 0 sampleReading = sampleAnswers := by
  have going : ¬((sampleReading.msc 0).state = .ready ∨ (sampleReading.msc 0).state = .error ∨
      (sampleReading.msc 0).state = .resetRecovery) := by decide +kernel
  have ready : (((pollMachine sampleConfig sampleHcd 0).play sampleReading sampleAnswers).msc 0).state = .ready := by decide +kernel
  rw [pollsMade, if_neg going, if_neg (show ¬(samplePolls 0).fails = true from nofun), pollsMade, if_pos (.inl ready)]
  rfl

theorem calls_sound_sample :
    ((Request.init 7).run sampleConfig sampleHcd samplePolls sampleBlock).1 = .ok () ∧
      ∀ s ∈ sampleDriver.transitions sampleBlock [.call (.init 7) samplePolls], Law sampleConfig sampleHcd s := by
  refine ⟨by decide +kernel, ?_⟩
  refine calls_sound sampleBlock_sound (Machine.run_of_legal ⟨fun k h₁ started => ?_, trivial⟩) ?_
  · obtain ⟨rfl, rfl⟩ := sampleStarted_only started
    have made := sampleMade
    change (pollMachine sampleConfig sampleHcd 0).Legal sampleReading
      (pollsMade sampleConfig sampleHcd 0 samplePolls 2 0 sampleReading)
    rw [made]
    exact ⟨⟨0, by decide +kernel, by decide +kernel⟩, ⟨0, by decide +kernel, by decide +kernel⟩,
      ⟨0, by decide +kernel, by decide +kernel⟩, trivial⟩
  · intro s mem
    simp only [Machine.transitions, List.mem_cons, List.not_mem_nil, or_false] at mem
    subst mem
    intro request polls same k h₁ started
    injection same with same same'
    subst same same'
    obtain ⟨rfl, rfl⟩ := sampleStarted_only started
    have trace : waited sampleConfig sampleHcd sampleBlock samplePolls 0 sampleReading =
        (pollMachine sampleConfig sampleHcd 0).transitions sampleReading sampleAnswers := by
      rw [waited]
      exact congrArg _ sampleMade
    refine ⟨trivial, ?_, ?_⟩
    · change courseOf sampleHcd 0 (waited sampleConfig sampleHcd sampleBlock samplePolls 0 sampleReading) = .finished
      rw [trace]
      decide +kernel
    · change ∀ event ∈ waited sampleConfig sampleHcd sampleBlock samplePolls 0 sampleReading,
        Unfilled sampleConfig 0 event
      rw [trace]
      intro event mem j start
      have none := (Machine.forall_transitions fun event => ∀ j, event ≠ PollEvent.start j).mpr
        (by simp [sampleAnswers]) event mem
      exact absurd start (none j)

/-- When a poll fails at once, the capacity variable of the call that has returned stays with the instance. -/
theorem calls_unsound :
    ¬∀ start trace b, Sound sampleConfig start.host → sampleDriver.Run start trace b →
    ∀ s ∈ trace, Law sampleConfig sampleHcd s := by
  intro all
  have legal : sampleDriver.Legal sampleBlock [.call (.init 7) fun _ => ⟨[], true⟩] := by
    refine ⟨fun k h₁ _ => ?_, trivial⟩
    change (pollMachine sampleConfig sampleHcd k).Legal h₁ (pollsMade sampleConfig sampleHcd k (fun _ => ⟨[], true⟩) 2 0 h₁)
    rw [pollsMade]
    split
    · trivial
    · rw [if_pos rfl]
      trivial
  have law := all _ _ _ sampleBlock_sound (Machine.run_of_legal legal) _ (List.mem_cons_self ..)
  have failed := (law (.init 7) (fun _ => ⟨[], true⟩) rfl).failed (by decide +kernel) 7 rfl
  refine failed.capacity 0 ?_
  decide +kernel

end XSDK.Usbmsc
