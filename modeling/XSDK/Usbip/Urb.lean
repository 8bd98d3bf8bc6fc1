import Mathlib.Data.List.FinRange
import Mathlib.Data.Vector.Basic

/-! The table of pending URBs, for any number of slots. -/
namespace XSDK.Usbip

inductive Error
  | invalidArgument
  | invalidState
  | noUrbSlot
  | urbNotFound
  deriving DecidableEq, Repr

/-- A decoded USBIP_CMD_SUBMIT. -/
structure CmdSubmit where
  seqnum : UInt32
  devid : UInt32
  direction : UInt32
  ep : UInt32
  transferFlags : UInt32
  transferBufferLength : UInt32
  interval : UInt32
  setup : Vector UInt8 8

inductive UrbState
  | free
  | submitted
  | pendingUnlink
  deriving DecidableEq, Repr

structure UrbEntry where
  state : UrbState
  seqnum : UInt32
  devid : UInt32
  direction : UInt32
  ep : UInt32
  transferFlags : UInt32
  requestedLength : UInt32
  setup : Vector UInt8 8
  timeoutMs : UInt32
  submitTimeMs : UInt32

def UrbEntry.zero : UrbEntry := ⟨.free, 0, 0, 0, 0, 0, 0, .replicate 8 0, 0, 0⟩

def urbTimeoutMs : UInt32 := 5000

abbrev UrbTable (n : Nat) : Type := Fin n → UrbEntry

variable {n : Nat}

open Function (update)

def firstSlot (p : Fin n → Bool) : Option (Fin n) := (List.finRange n).find? p

def urbTableInit : UrbTable n := fun _ => .zero

def CmdSubmit.entry (submit : CmdSubmit) (submitTimeMs : UInt32) : UrbEntry where
  state := .submitted
  seqnum := submit.seqnum
  devid := submit.devid
  direction := submit.direction
  ep := submit.ep
  transferFlags := submit.transferFlags
  requestedLength := submit.transferBufferLength
  setup := submit.setup
  timeoutMs := urbTimeoutMs
  submitTimeMs := submitTimeMs

variable (table : UrbTable n)

def urbSubmit (submit : CmdSubmit) (submitTimeMs : UInt32) : Except Error (Fin n) × UrbTable n :=
  match firstSlot fun i => (table i).state = .free with
  | some i => (.ok i, update table i (submit.entry submitTimeMs))
  | none => (.error .noUrbSlot, table)

def urbComplete (slot : Nat) : Except Error Unit × UrbTable n :=
  if h : slot < n then
    if (table ⟨slot, h⟩).state = .free then (.error .invalidState, table)
    else (.ok (), update table ⟨slot, h⟩ { table ⟨slot, h⟩ with state := .free })
  else (.error .invalidArgument, table)

def urbFindBySeqnum (seqnum : UInt32) : Except Error (Fin n) :=
  match firstSlot fun i => (table i).state ≠ .free ∧ (table i).seqnum = seqnum with
  | some i => .ok i
  | none => .error .urbNotFound

def urbRequestUnlink (seqnum : UInt32) : Except Error Unit × UrbTable n :=
  match firstSlot fun i => (table i).state = .submitted ∧ (table i).seqnum = seqnum with
  | some i => (.ok (), update table i { table i with state := .pendingUnlink })
  | none => (.error .urbNotFound, table)

def urbFree (slot : Nat) : Except Error Unit × UrbTable n :=
  if h : slot < n then (.ok (), update table ⟨slot, h⟩ .zero)
  else (.error .invalidArgument, table)

/-- The age of an entry, across a wrap of the clock. -/
def UrbEntry.age (entry : UrbEntry) (nowMs : UInt32) : UInt32 := nowMs - entry.submitTimeMs

/-- One round of the search: the oldest expired slot so far, with its age. -/
def expiredRound (nowMs : UInt32) (found : Option (Fin n × UInt32)) (i : Fin n) :
    Option (Fin n × UInt32) :=
  if (table i).state = .free then found
  else if (table i).timeoutMs = 0 then found
  else if (table i).timeoutMs ≤ (table i).age nowMs then
    match found with
    | none => some (i, (table i).age nowMs)
    | some (oldestSlot, oldestAge) =>
      if oldestAge < (table i).age nowMs then some (i, (table i).age nowMs) else some (oldestSlot, oldestAge)
  else found

def urbFindExpired (nowMs : UInt32) : Except Error (Fin n) :=
  match (List.finRange n).foldl (expiredRound table nowMs) none with
  | some (slot, _) => .ok slot
  | none => .error .urbNotFound

end XSDK.Usbip
