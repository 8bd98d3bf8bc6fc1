import XSDK.Library.LittleEndian
import XSDK.Library.Leb128
import XSDK.Library.Ring

/-! The trace recorder: one byte ring that holds length-prefixed records. Words that the
wire carries are UInt32; sizes are naturals, cut to 32 bits where the code adds them up. -/
namespace XSDK.Trace

open Library

inductive OverrunPolicy where
  | drop
  | overwrite
  deriving DecidableEq, Repr

inductive Error where
  | invalidArg
  | notInitialized
  | transport
  deriving DecidableEq, Repr

def minCapacityBytes : Nat := 16

def evGap : UInt32 := 0
def evBoot : UInt32 := 1
def evTimeSync : UInt32 := 2

def coreProtectedMask : UInt32 := (1 <<< evGap) ||| (1 <<< evBoot) ||| (1 <<< evTimeSync)

structure Config where
  buffer : Nat → UInt8
  capacityBytes : Nat
  timestampHz : UInt32
  overrunPolicy : OverrunPolicy
  isEnabled : Bool
  /-- Whether a transport is given. -/
  hasTransport : Bool

structure Context where
  buffer : Nat → UInt8
  capacityBytes : Nat
  writePos : Nat
  readPos : Nat
  droppedCount : UInt32
  lastTimestamp : UInt32
  isGapPending : Bool
  overrunPolicy : OverrunPolicy
  enabledEventsMask : Nat → UInt32
  timestampHz : UInt32
  hasTransport : Bool
  isInitialized : Bool
  isEnabled : Bool

variable (ctx : Context)

def Context.contents : List UInt8 :=
  Ring.contents ctx.buffer ctx.capacityBytes ctx.readPos ctx.writePos

def leb128Size (v : Nat) : Nat := Leb128.size v

def ringAvailable : Nat :=
  if ctx.writePos ≥ ctx.readPos then ctx.capacityBytes - (ctx.writePos - ctx.readPos) - 1
  else ctx.readPos - ctx.writePos - 1

def ringPut (byte : UInt8) : Context :=
  { ctx with
    buffer := Ring.store ctx.buffer ctx.writePos byte
    writePos := (ctx.writePos + 1) % ctx.capacityBytes }

def ringPutAll (bytes : List UInt8) : Context := bytes.foldl ringPut ctx

def ringPutLeb128 (value : Nat) : Context := ringPutAll ctx (Leb128.encode value)

def ringPeekByte (pos : Nat) : UInt8 := ctx.buffer (pos % ctx.capacityBytes)

/-- The length prefix at a position: its value, its bytes and the position after it. -/
def peekPrefix (ctx : Context) : Nat → Nat → Nat → Nat → Nat → Nat × Nat × Nat
  | 0, pos, payloadLen, _, prefixBytes => (payloadLen, prefixBytes, pos)
  | rounds + 1, pos, payloadLen, shift, prefixBytes =>
    let b := (ringPeekByte ctx pos).toNat
    let next := (pos + 1) % ctx.capacityBytes
    let length := payloadLen ||| word32 ((b % 128) <<< shift)
    if b ≥ 128 ∧ shift + 7 < 35 then peekPrefix ctx rounds next length (shift + 7) (prefixBytes + 1)
    else (length, prefixBytes + 1, next)

/-- One round for each record; no result when the rounds do not suffice. -/
def countRecords (ctx : Context) : Nat → Nat → Nat → UInt32 → Option UInt32
  | 0, _, _, _ => none
  | rounds + 1, pos, traversed, count =>
    if pos ≠ ctx.writePos ∧ traversed < ctx.capacityBytes then
      let (payloadLen, prefixBytes, after) := peekPrefix ctx 5 pos 0 0 0
      countRecords ctx rounds ((after + payloadLen) % ctx.capacityBytes)
        (traversed + word32 (prefixBytes + payloadLen)) (count + 1)
    else some count

/-- A loop that lasts longer than this stands still and never ends: a round that does not
advance `traversed` is followed by at most as many others as there are positions. -/
def ringRecordCount : Option UInt32 :=
  countRecords ctx ((ctx.capacityBytes + 1) * (ctx.capacityBytes + 1)) ctx.readPos 0 0

def ringPutBoot (timestamp : UInt32) : Context :=
  let payload := 1 + leb128Size timestamp.toNat + leb128Size ctx.timestampHz.toNat
  let ctx := ringPutLeb128 ctx payload
  let ctx := ringPut ctx evBoot.toUInt8
  let ctx := ringPutLeb128 ctx timestamp.toNat
  ringPutLeb128 ctx ctx.timestampHz.toNat

def ringPutGap (delta droppedCount : UInt32) : Context :=
  let payload := 1 + leb128Size delta.toNat + leb128Size droppedCount.toNat
  let ctx := ringPutLeb128 ctx payload
  let ctx := ringPut ctx evGap.toUInt8
  let ctx := ringPutLeb128 ctx delta.toNat
  ringPutLeb128 ctx droppedCount.toNat

/-- Ids from 256 on have no bit in the mask. -/
def eventIsEnabled (eventId : UInt32) : Bool :=
  if eventId ≥ 256 then true
  else ctx.enabledEventsMask (eventId / 32).toNat &&& (1 <<< (eventId % 32)) != 0

end XSDK.Trace
