import XSDK.Library.BigEndian
import XSDK.Library.Call

/-! The mass-storage class of the device stack: the bulk-only transport and its SCSI commands. -/
namespace XSDK.Usbd.Msc

open Library Library.Call Library.BigEndian

inductive BotState
  | waitCbw
  | dataOut
  | dataIn
  | sendCsw
  | error
  | idle
  deriving DecidableEq, Repr

inductive CswStatus
  | passed
  | failed
  deriving DecidableEq, Repr

inductive Error
  | invalidClassReq
  | dcd
  deriving DecidableEq, Repr

structure Sense where
  key : UInt8
  asc : UInt8
  ascq : UInt8
  deriving DecidableEq, Repr

def Sense.zero : Sense := ⟨0, 0, 0⟩

structure Cbw where
  signature : UInt32
  tag : UInt32
  dataLength : UInt32
  flags : UInt8
  cb : Vector UInt8 16

structure Csw where
  signature : UInt32
  tag : UInt32
  dataResidue : UInt32
  status : CswStatus

structure Capacity where
  numberOfBlocks : UInt32
  blockSize : UInt32
  deriving DecidableEq, Repr

structure Context where
  state : BotState
  sense : Sense
  temp : Nat → UInt8
  cbw : Cbw
  csw : Csw
  capacity : Capacity

/-- Where data comes from or goes to: a buffer of the context, or the application's. -/
inductive Pointer
  | null
  | temp
  | cbw
  | csw
  | app (address : Nat)
  deriving DecidableEq, Repr

inductive IoCmd
  | inquiry
  | getCapacity
  | getReadAddr (blockOffset numberOfBlocks : UInt32)
  | getWriteAddr (blockOffset numberOfBlocks : UInt32)
  | writeComplete
  deriving DecidableEq, Repr

/-- What on_io_control returns, and what it leaves in the pointer and the length. -/
structure IoReply where
  ok : Bool
  data : Option Nat
  length : UInt32

def IoReply.pointer (reply : IoReply) : Pointer :=
  match reply.data with
  | none => .null
  | some address => .app address

inductive Endpoint
  | inEp
  | outEp
  deriving DecidableEq, Repr

/-- What is done, in order. -/
inductive Effect
  | ioControl (cmd : IoCmd)
  | setSense (sense : Sense)
  | send (data : Pointer) (length : UInt32)
  | receive (data : Pointer) (length : UInt32)
  | init (ep : Endpoint)
  | stall (ep : Endpoint)
  | clearStall (ep : Endpoint)
  deriving DecidableEq, Repr

/-- The application, and whether the controller takes a call. -/
structure Env where
  io : IoCmd → IoReply
  capacity : Option Capacity
  dcd : Effect → Bool

structure Storage where
  ctx : Context
  log : List Effect

abbrev MscM : Type → Type := Call Storage Error

def update (f : Context → Context) : MscM Unit := modify fun s => { s with ctx := f s.ctx }
def did (effect : Effect) : MscM Unit := modify fun s => { s with log := s.log ++ [effect] }

def cbwLength : UInt32 := 31
def cswLength : UInt32 := 13
def cbwSignature : UInt32 := 0x43425355
def cswSignature : UInt32 := 0x53425355
def botIn : UInt8 := 0x80

variable (env : Env)

def ioControl (cmd : IoCmd) : MscM IoReply := do
  did (.ioControl cmd)
  return env.io cmd

def dcdCall (effect : Effect) : MscM Unit := do
  did effect
  reject (env.dcd effect = false) .dcd

def setSense (key asc ascq : UInt8) : MscM Unit := do
  update fun c => { c with sense := ⟨key, asc, ascq⟩ }
  did (.setSense ⟨key, asc, ascq⟩)

def clearSense : MscM Unit := setSense 0 0 0

def setStatus (status : CswStatus) : MscM Unit := update fun c => { c with csw := { c.csw with status } }

def prepareCsw : MscM Unit :=
  update fun c => { c with csw := { c.csw with signature := cswSignature, tag := c.cbw.tag } }

def setCswResidue (residue : UInt32) : MscM Unit := update
  fun c => { c with csw := { c.csw with dataResidue := residue } }

def sendCurrentCsw : MscM Unit := do
  update fun c => { c with state := .sendCsw }
  dcdCall env (.send .csw cswLength)

def startCbwReceive : MscM Unit := do
  update fun c => { c with state := .waitCbw }
  dcdCall env (.receive .cbw cbwLength)

def initBulkEndpoints : MscM Unit := do
  dcdCall env (.init .outEp)
  dcdCall env (.init .inEp)

def resetBulkTransport : MscM Unit := do
  initBulkEndpoints env
  dcdCall env (.clearStall .inEp)
  dcdCall env (.clearStall .outEp)
  clearSense
  startCbwReceive env

/-! ### Commands -/

inductive Scsi
  | testUnitReady
  | rewind
  | requestSense
  | format
  | inquiry
  | modeSelect6
  | release6
  | modeSense6
  | startStopUnit
  | sendDiagnostic
  | preventAllowMediumRemoval
  | readFormatCapacities
  | readCapacity
  | read10
  | write10
  | seek10
  | writeAndVerify10
  | verify10
  | synchronizeCache
  | modeSense10
  | read12
  | write12
  | unknown
  deriving DecidableEq, Repr

def Scsi.ofOpcode (opcode : UInt8) : Scsi :=
  match opcode.toNat with
  | 0x00 => testUnitReady
  | 0x01 => rewind
  | 0x03 => requestSense
  | 0x04 => format
  | 0x12 => inquiry
  | 0x15 => modeSelect6
  | 0x17 => release6
  | 0x1A => modeSense6
  | 0x1B => startStopUnit
  | 0x1D => sendDiagnostic
  | 0x1E => preventAllowMediumRemoval
  | 0x23 => readFormatCapacities
  | 0x25 => readCapacity
  | 0x28 => read10
  | 0x2A => write10
  | 0x2B => seek10
  | 0x2E => writeAndVerify10
  | 0x2F => verify10
  | 0x35 => synchronizeCache
  | 0x5A => modeSense10
  | 0xA8 => read12
  | 0xAA => write12
  | _ => unknown

variable (cbw : Cbw)

def Cbw.scsi : Scsi := .ofOpcode cbw.cb[0]

structure CommandResult where
  response : Pointer
  writeAddress : Pointer
  responseLength : UInt32
  writeLength : UInt32

def CommandResult.zero : CommandResult := ⟨.null, .null, 0, 0⟩

structure BlockRequest where
  blockOffset : UInt32
  numberOfBlocks : UInt32
  transferLength : UInt32

def Cbw.blockOffset : UInt32 :=
  (cbw.cb[2].toUInt32 <<< 24) ||| (cbw.cb[3].toUInt32 <<< 16) ||| (cbw.cb[4].toUInt32 <<< 8) ||| cbw.cb[5].toUInt32

def Cbw.numberOfBlocks : UInt32 := (cbw.cb[7].toUInt32 <<< 8) ||| cbw.cb[8].toUInt32

def blockRequest (capacity : Capacity) : BlockRequest :=
  ⟨cbw.blockOffset, cbw.numberOfBlocks, cbw.numberOfBlocks * capacity.blockSize⟩

def BlockRequest.InRange (request : BlockRequest) (capacity : Capacity) : Prop :=
  request.blockOffset + request.numberOfBlocks ≤ capacity.numberOfBlocks

instance (request : BlockRequest) (capacity : Capacity) : Decidable (request.InRange capacity) :=
  inferInstanceAs (Decidable (_ ≤ _))

def rw10RequestDecode : MscM (Option BlockRequest) := do
  let c ← read Storage.ctx
  let request := blockRequest c.cbw c.capacity
  if request.InRange c.capacity then return some request
  else do
    setSense 0x05 0x21 0
    return none

/-- READ(10) and WRITE(10): the callback for the blocks, the sense when it fails, and the field that it fills. -/
def rw10Process (cbwDataLength : UInt32) (cmd : UInt32 → UInt32 → IoCmd) (asc : UInt8)
    (result : Pointer → UInt32 → CommandResult) : MscM CommandResult := do
  match ← rw10RequestDecode with
  | none => return .zero
  | some request =>
    if cbwDataLength = request.transferLength then do
      let reply ← ioControl env (cmd request.blockOffset request.numberOfBlocks)
      if reply.ok then setStatus .passed else setSense 0x03 asc 0
      return result reply.pointer request.transferLength
    else return .zero

def read10Process (cbwDataLength : UInt32) : MscM CommandResult :=
  rw10Process env cbwDataLength .getReadAddr 0x11
    fun data length => { CommandResult.zero with response := data, responseLength := length }

def write10Process (cbwDataLength : UInt32) : MscM CommandResult :=
  rw10Process env cbwDataLength .getWriteAddr 0x0C
    fun data length => { CommandResult.zero with writeAddress := data, writeLength := length }

variable (temp : Nat → UInt8)

def put (k : Nat) (bytes : List UInt8) : Nat → UInt8 := fun j =>
  if k ≤ j then (bytes[j - k]?).getD (temp j) else temp j

def zeros (n : Nat) : Nat → UInt8 := put temp 0 (List.replicate n 0)

variable (length : UInt32)

/-- A response of so many bytes from the buffer, and the command passes. -/
def respond (fill : Context → Nat → UInt8) : MscM CommandResult := do
  update fun c => { c with temp := fill c }
  setStatus .passed
  return { CommandResult.zero with response := .temp, responseLength := length }

def requestSense : MscM CommandResult := do
  let result ← respond 18 fun c =>
    put (put (put (put (zeros c.temp 18) 0 [0x70]) 7 [0x0A]) 2 [c.sense.key]) 12 [c.sense.asc, c.sense.ascq]
  clearSense
  return result

def inquiry : MscM CommandResult := do
  let reply ← ioControl env .inquiry
  if reply.ok then setStatus .passed else setSense 0x05 0x20 0
  return { CommandResult.zero with response := reply.pointer, responseLength := reply.length }

def modeSense6 : MscM CommandResult := respond 12 fun c =>
  put (put (put (put (zeros c.temp 12) 0 [0x0B]) 3 [0x08]) 4 (bytes32 c.capacity.numberOfBlocks)) 8
    (bytes32 c.capacity.blockSize)

def readFormatCapacities : MscM CommandResult := respond 12 fun c =>
  put (put (put (zeros c.temp 12) 3 [0x08]) 4 (bytes32 c.capacity.numberOfBlocks)) 8
    (0x02 :: (bytes32 c.capacity.blockSize).tail)

def readCapacity : MscM CommandResult := respond 8 fun c =>
  put (put c.temp 0 (bytes32 (c.capacity.numberOfBlocks - 1))) 4 (bytes32 c.capacity.blockSize)

def modeSense10 : MscM CommandResult := respond 16 fun c =>
  put (put (put (put (zeros c.temp 16) 1 [0x0E]) 7 [0x08]) 8 (bytes32 c.capacity.numberOfBlocks)) 12
    (bytes32 c.capacity.blockSize)

def pass : MscM CommandResult := do
  setStatus .passed
  return .zero

def scsiCommandProcess (cbwDataLength : UInt32) : MscM CommandResult := do
  let c ← read Storage.ctx
  match c.cbw.scsi with
  | .requestSense => requestSense
  | .inquiry => inquiry env
  | .modeSense6 => modeSense6
  | .readFormatCapacities => readFormatCapacities
  | .readCapacity => readCapacity
  | .modeSense10 => modeSense10
  | .rewind | .format | .modeSelect6 | .release6 | .seek10 | .writeAndVerify10 | .synchronizeCache | .read12 | .write12
  | .sendDiagnostic => return .zero
  | .testUnitReady => pass
  | .startStopUnit => pass
  | .preventAllowMediumRemoval => pass
  | .verify10 => pass
  | .read10 => read10Process env cbwDataLength
  | .write10 => write10Process env cbwDataLength
  | .unknown => return .zero

/-! ### The transport -/

def isIn (flags : UInt8) : Bool := flags &&& botIn ≠ 0

def dataPhaseStart (cbwDataLength : UInt32) (cbwFlags : UInt8) (result : CommandResult) : MscM Unit :=
  if cbwDataLength = 0 then do
    setCswResidue 0
    sendCurrentCsw env
  else if isIn cbwFlags then do
    let length := min result.responseLength cbwDataLength
    update fun c => { c with state := .dataIn }
    dcdCall env (.send result.response length)
    setCswResidue (cbwDataLength - length)
  else do
    let length := min result.writeLength cbwDataLength
    update fun c => { c with state := .dataOut }
    dcdCall env (.receive result.writeAddress length)
    setCswResidue (cbwDataLength - length)

/-- Whether the block is valid; otherwise both endpoints are stalled. -/
def cbwValidate : MscM Bool := do
  let c ← read Storage.ctx
  if length = cbwLength ∧ c.cbw.signature = cbwSignature then return true
  else do
    update fun c => { c with state := .error }
    dcdCall env (.stall .inEp)
    dcdCall env (.stall .outEp)
    return false

def cbwReceived : MscM Unit := do
  setStatus .failed
  let valid ← cbwValidate env length
  if valid then do
    let cbw ← read fun s => s.ctx.cbw
    let result ← scsiCommandProcess env cbw.dataLength
    prepareCsw
    let status ← read fun s => s.ctx.csw.status
    if status = .passed then dataPhaseStart env cbw.dataLength cbw.flags result
    else do
      setCswResidue cbw.dataLength
      sendCurrentCsw env
  else pure ()

def refuseWrite : MscM Unit := do
  setStatus .failed
  setSense 0x03 0x0C 0

def dataOutReceived : MscM Unit := do
  let reply ← ioControl env .writeComplete
  onlyIf (reply.ok = false) refuseWrite
  sendCurrentCsw env

/-- On the class's own endpoint, with the callbacks installed. -/
def dataReceived : MscM Unit := do
  let state ← read fun s => s.ctx.state
  if state = .waitCbw then cbwReceived env length
  else if state = .dataOut then dataOutReceived env
  else pure ()

def transmitComplete : MscM Unit := do
  let state ← read fun s => s.ctx.state
  if state = .sendCsw then startCbwReceive env
  else if state = .dataIn then sendCurrentCsw env
  else pure ()

inductive BusEvent
  | connect
  | speedChange
  | reset
  | disconnect
  | other
  deriving DecidableEq, Repr

def busEvent (event : BusEvent) : MscM Unit :=
  if event = .connect ∨ event = .speedChange then do
    initBulkEndpoints env
    did (.ioControl .getCapacity)
    update fun c => { c with capacity := env.capacity.getD c.capacity }
    clearSense
    startCbwReceive env
  else if event = .reset ∨ event = .disconnect then update fun c => { c with state := .idle }
  else pure ()

/-! ### What a command block does -/

section Runs

variable {env : Env} {s s' : Storage} {result : CommandResult} {cbwDataLength : UInt32}

@[simp] theorem update_run (f : Context → Context) : update f s = (.ok (), { s with ctx := f s.ctx }) := rfl
@[simp] theorem did_run (effect : Effect) : did effect s = (.ok (), { s with log := s.log ++ [effect] }) := rfl

@[simp] theorem ioControl_run (cmd : IoCmd) :
    ioControl env cmd s = (.ok (env.io cmd), { s with log := s.log ++ [.ioControl cmd] }) := rfl

@[simp] theorem setSense_run (key asc ascq : UInt8) : setSense key asc ascq s =
    (.ok (), ⟨{ s.ctx with sense := ⟨key, asc, ascq⟩ }, s.log ++ [.setSense ⟨key, asc, ascq⟩]⟩) := rfl

@[simp] theorem setStatus_run (status : CswStatus) : setStatus status s =
    (.ok (), { s with ctx := { s.ctx with csw := { s.ctx.csw with status } } }) := rfl

theorem dcdCall_run (effect : Effect) : dcdCall env effect s =
    (if env.dcd effect = false then .error .dcd else .ok (), { s with log := s.log ++ [effect] }) := by
  change reject (env.dcd effect = false) Error.dcd { s with log := s.log ++ [effect] } = _
  by_cases refused : env.dcd effect = false
  · rw [reject_pos refused, if_pos refused]
    rfl
  · rw [reject_neg refused, if_neg refused]
    rfl

/-- How a command block ends: its result, and what it leaves of the sense, the status and the buffer. -/
structure Ran (s s' : Storage) (done : List Effect) (sense : Sense) (status : CswStatus) : Prop where
  log : s'.log = s.log ++ done
  sense : s'.ctx.sense = sense
  status : s'.ctx.csw.status = status
  cbw : s'.ctx.cbw = s.ctx.cbw
  capacity : s'.ctx.capacity = s.ctx.capacity
  state : s'.ctx.state = s.ctx.state

inductive BlockRun (env : Env) (s : Storage) (cmd : UInt32 → UInt32 → IoCmd) (asc : UInt8)
    (result : Pointer → UInt32 → CommandResult) (request : BlockRequest) : CommandResult → Storage → Prop where
  | range {s' : Storage} : ¬request.InRange s.ctx.capacity →
      Ran s s' [.setSense ⟨0x05, 0x21, 0⟩] ⟨0x05, 0x21, 0⟩ s.ctx.csw.status →
      BlockRun env s cmd asc result request .zero s'
  | length : request.InRange s.ctx.capacity → s.ctx.cbw.dataLength ≠ request.transferLength →
      BlockRun env s cmd asc result request .zero s
  | passed {s' : Storage} : request.InRange s.ctx.capacity → s.ctx.cbw.dataLength = request.transferLength →
      (env.io (cmd request.blockOffset request.numberOfBlocks)).ok = true →
      Ran s s' [.ioControl (cmd request.blockOffset request.numberOfBlocks)] s.ctx.sense .passed →
      BlockRun env s cmd asc result request
        (result (env.io (cmd request.blockOffset request.numberOfBlocks)).pointer request.transferLength) s'
  | refused {s' : Storage} : request.InRange s.ctx.capacity → s.ctx.cbw.dataLength = request.transferLength →
      (env.io (cmd request.blockOffset request.numberOfBlocks)).ok = false →
      Ran s s' [.ioControl (cmd request.blockOffset request.numberOfBlocks), .setSense ⟨0x03, asc, 0⟩]
        ⟨0x03, asc, 0⟩
        s.ctx.csw.status →
      BlockRun env s cmd asc result request
        (result (env.io (cmd request.blockOffset request.numberOfBlocks)).pointer request.transferLength) s'

theorem rw10Process_run (s : Storage) (cmd : UInt32 → UInt32 → IoCmd) (asc : UInt8)
    (result : Pointer → UInt32 → CommandResult) : ∃ r s',
    rw10Process env s.ctx.cbw.dataLength cmd asc result s = (.ok r, s') ∧
      BlockRun env s cmd asc result (blockRequest s.ctx.cbw s.ctx.capacity) r s' := by
  by_cases range : (blockRequest s.ctx.cbw s.ctx.capacity).InRange s.ctx.capacity
  · have decoded : rw10RequestDecode s = (.ok (some (blockRequest s.ctx.cbw s.ctx.capacity)), s) := by
      rw [rw10RequestDecode, read_bind, if_pos range]
      rfl
    rw [rw10Process, bind_ok _ decoded]
    by_cases length : s.ctx.cbw.dataLength = (blockRequest s.ctx.cbw s.ctx.capacity).transferLength
    · simp only
      rw [if_pos length, bind_ok _ (ioControl_run _)]
      cases taken : (env.io (cmd (blockRequest s.ctx.cbw s.ctx.capacity).blockOffset
          (blockRequest s.ctx.cbw s.ctx.capacity).numberOfBlocks)).ok with
      | true => exact ⟨_, _, rfl, .passed range length taken ⟨rfl, rfl, rfl, rfl, rfl, rfl⟩⟩
      | false => exact ⟨_, _, rfl, .refused range length taken ⟨by simp, rfl, rfl, rfl, rfl, rfl⟩⟩
    · simp only
      rw [if_neg length]
      exact ⟨_, _, rfl, .length range length⟩
  · have decoded : rw10RequestDecode s = (.ok none, ⟨{ s.ctx with sense := ⟨0x05, 0x21, 0⟩ },
        s.log ++ [.setSense ⟨0x05, 0x21, 0⟩]⟩) := by
      rw [rw10RequestDecode, read_bind, if_neg range]
      rfl
    rw [rw10Process, bind_ok _ decoded]
    exact ⟨_, _, rfl, .range range ⟨rfl, rfl, rfl, rfl, rfl, rfl⟩⟩

end Runs

/-! ### The kinds of commands -/

inductive Kind
  | silent
  | passing
  | sense
  | inquiry
  | read
  | write
  deriving DecidableEq, Repr

/-- Commands that are not carried out end as they began; the passing ones call nobody. -/
def Scsi.kind : Scsi → Kind
  | requestSense => .sense
  | inquiry => .inquiry
  | read10 => .read
  | write10 => .write
  | testUnitReady | startStopUnit | preventAllowMediumRemoval | verify10 => .passing
  | modeSense6 | readFormatCapacities | readCapacity | modeSense10 => .passing
  | rewind | format | modeSelect6 | release6 | seek10 | writeAndVerify10 | synchronizeCache | read12 | write12
  | sendDiagnostic | unknown => .silent

/-- A result that names a buffer for what it wants sent, and takes nothing from the host. -/
structure Calm (result : CommandResult) : Prop where
  response : result.response = .null → result.responseLength = 0
  writeLength : result.writeLength = 0

theorem Calm.zero : Calm .zero := ⟨fun _ => rfl, rfl⟩

def senseAt : Sense := ⟨temp 2, temp 12, temp 13⟩

inductive ScsiRun (env : Env) (s : Storage) : CommandResult → Storage → Prop where
  | silent : s.ctx.cbw.scsi.kind = .silent → ScsiRun env s .zero s
  | passing {result : CommandResult} {s' : Storage} : s.ctx.cbw.scsi.kind = .passing → Calm result →
      Ran s s' [] s.ctx.sense .passed → ScsiRun env s result s'
  | sense {result : CommandResult} {s' : Storage} : s.ctx.cbw.scsi.kind = .sense → Calm result →
      senseAt s'.ctx.temp = s.ctx.sense → Ran s s' [.setSense .zero] .zero .passed → ScsiRun env s result s'
  | inquiryPassed {s' : Storage} : s.ctx.cbw.scsi.kind = .inquiry → (env.io .inquiry).ok = true →
      Ran s s' [.ioControl .inquiry] s.ctx.sense .passed →
      ScsiRun env s ⟨(env.io .inquiry).pointer, .null, (env.io .inquiry).length, 0⟩ s'
  | inquiryRefused {s' : Storage} : s.ctx.cbw.scsi.kind = .inquiry → (env.io .inquiry).ok = false →
      Ran s s' [.ioControl .inquiry, .setSense ⟨0x05, 0x20, 0⟩] ⟨0x05, 0x20, 0⟩ s.ctx.csw.status →
      ScsiRun env s ⟨(env.io .inquiry).pointer, .null, (env.io .inquiry).length, 0⟩ s'
  | read {result : CommandResult} {s' : Storage} : s.ctx.cbw.scsi.kind = .read →
      BlockRun env s .getReadAddr 0x11 (fun data length => ⟨data, .null, length, 0⟩)
        (blockRequest s.ctx.cbw s.ctx.capacity) result s' → ScsiRun env s result s'
  | write {result : CommandResult} {s' : Storage} : s.ctx.cbw.scsi.kind = .write →
      BlockRun env s .getWriteAddr 0x0C (fun data length => ⟨.null, data, 0, length⟩)
        (blockRequest s.ctx.cbw s.ctx.capacity) result s' → ScsiRun env s result s'

section Process

variable {env : Env}

theorem respond_run (s : Storage) (length : UInt32) (fill : Context → Nat → UInt8) :
    respond length fill s = (.ok ⟨.temp, .null, length, 0⟩,
      { s with ctx := { s.ctx with temp := fill s.ctx, csw := { s.ctx.csw with status := .passed } } }) := rfl

theorem respond_passing (s : Storage) (length : UInt32) (fill : Context → Nat → UInt8)
    (kind : s.ctx.cbw.scsi.kind = .passing) :
    ∃ r s', respond length fill s = (.ok r, s') ∧ ScsiRun env s r s' :=
  ⟨_, _, respond_run s length fill,
    .passing kind ⟨fun null => (nomatch null), rfl⟩ ⟨(List.append_nil _).symm, rfl, rfl, rfl, rfl, rfl⟩⟩

theorem pass_passing (s : Storage) (kind : s.ctx.cbw.scsi.kind = .passing) :
    ∃ r s', pass s = (.ok r, s') ∧ ScsiRun env s r s' :=
  ⟨_, _, rfl, .passing kind .zero ⟨(List.append_nil _).symm, rfl, rfl, rfl, rfl, rfl⟩⟩

theorem requestSense_run (s : Storage) (kind : s.ctx.cbw.scsi.kind = .sense) :
    ∃ r s', requestSense s = (.ok r, s') ∧ ScsiRun env s r s' := by
  refine ⟨_, _, rfl, .sense kind ⟨fun null => (nomatch null), rfl⟩ rfl ⟨rfl, rfl, rfl, rfl, rfl, rfl⟩⟩

theorem inquiry_run (s : Storage) (kind : s.ctx.cbw.scsi.kind = .inquiry) :
    ∃ r s', inquiry env s = (.ok r, s') ∧ ScsiRun env s r s' := by
  rw [inquiry, bind_ok _ (ioControl_run _)]
  cases taken : (env.io .inquiry).ok with
  | true => exact ⟨_, _, rfl, .inquiryPassed kind taken ⟨rfl, rfl, rfl, rfl, rfl, rfl⟩⟩
  | false => exact ⟨_, _, rfl, .inquiryRefused kind taken ⟨by simp, rfl, rfl, rfl, rfl, rfl⟩⟩

theorem scsiCommandProcess_run (s : Storage) :
    ∃ r s', scsiCommandProcess env s.ctx.cbw.dataLength s = (.ok r, s') ∧ ScsiRun env s r s' := by
  rw [scsiCommandProcess, read_bind]
  cases scsi : s.ctx.cbw.scsi with
  | requestSense => exact requestSense_run s (by rw [scsi]; rfl)
  | inquiry => exact inquiry_run s (by rw [scsi]; rfl)
  | modeSense6 => exact respond_passing s _ _ (by rw [scsi]; rfl)
  | readFormatCapacities => exact respond_passing s _ _ (by rw [scsi]; rfl)
  | readCapacity => exact respond_passing s _ _ (by rw [scsi]; rfl)
  | modeSense10 => exact respond_passing s _ _ (by rw [scsi]; rfl)
  | testUnitReady => exact pass_passing s (by rw [scsi]; rfl)
  | startStopUnit => exact pass_passing s (by rw [scsi]; rfl)
  | preventAllowMediumRemoval => exact pass_passing s (by rw [scsi]; rfl)
  | verify10 => exact pass_passing s (by rw [scsi]; rfl)
  | read10 =>
    obtain ⟨r, s', run, ends⟩ :=
      @rw10Process_run env s .getReadAddr 0x11 fun data length => ⟨data, .null, length, 0⟩
    exact ⟨r, s', run, .read (by rw [scsi]; rfl) ends⟩
  | write10 =>
    obtain ⟨r, s', run, ends⟩ :=
      @rw10Process_run env s .getWriteAddr 0x0C fun data length => ⟨.null, data, 0, length⟩
    exact ⟨r, s', run, .write (by rw [scsi]; rfl) ends⟩
  | rewind | format | modeSelect6 | release6 | seek10 | writeAndVerify10 | synchronizeCache | read12 | write12
  | sendDiagnostic | unknown => exact ⟨_, _, rfl, .silent (by rw [scsi]; rfl)⟩

end Process

end XSDK.Usbd.Msc
