import XSDK.Trace.Defs

/-! Emitting records, filtering them, and draining the ring to the transport. -/
namespace XSDK.Trace

open Library

def recordSize (payload : Nat) : Nat := word32 (leb128Size payload + payload)

variable (ctx : Context)

def gapSize (delta : UInt32) : Nat :=
  if ctx.isGapPending then recordSize (1 + leb128Size delta.toNat + leb128Size ctx.droppedCount.toNat) else 0

def eventPayload (eventId delta : UInt32) (extraBytes : Nat) : Nat :=
  word32 (leb128Size eventId.toNat + leb128Size delta.toNat + extraBytes)

variable (ts eventId : UInt32) (extraBytes : Nat)

def needed : Nat :=
  let delta := ts - ctx.lastTimestamp
  word32 (gapSize ctx delta + recordSize (eventPayload eventId delta extraBytes))

def dropEvent : Context :=
  { ctx with droppedCount := ctx.droppedCount + 1, isGapPending := true }

def putHeader (ts eventId delta : UInt32) (extraBytes : Nat) : Context :=
  let ctx := ringPutLeb128 ctx (eventPayload eventId delta extraBytes)
  let ctx := ringPutLeb128 ctx eventId.toNat
  let ctx := ringPutLeb128 ctx delta.toNat
  { ctx with lastTimestamp := ts }

/-- The ring has no room: everything in it gives way to BOOT, GAP and the event. -/
def overwriteStart : Option (Bool × Context) :=
  (ringRecordCount ctx).map fun overwritten =>
    let totalDropped := ctx.droppedCount + overwritten
    let bootSize := recordSize (1 + leb128Size ts.toNat + leb128Size ctx.timestampHz.toNat)
    let resetGapSize := recordSize (1 + leb128Size 0 + leb128Size totalDropped.toNat)
    let resetEvtSize := recordSize (eventPayload eventId 0 extraBytes)
    if word32 (bootSize + resetGapSize + resetEvtSize) ≥ ctx.capacityBytes then (false, dropEvent ctx)
    else
      let ctx := { ctx with readPos := ctx.writePos }
      let ctx := ringPutBoot ctx ts
      let ctx := ringPutGap ctx 0 totalDropped
      let ctx := { ctx with droppedCount := 0, isGapPending := false }
      (true, putHeader ctx ts eventId 0 extraBytes)

def roomStart : Context :=
  let delta := ts - ctx.lastTimestamp
  if ctx.isGapPending then
    let ctx := ringPutGap ctx delta ctx.droppedCount
    let ctx := { ctx with droppedCount := 0, isGapPending := false, lastTimestamp := ts }
    putHeader ctx ts eventId 0 extraBytes
  else putHeader ctx ts eventId delta extraBytes

def isActive (eventId : UInt32) : Bool :=
  ctx.isInitialized && ctx.isEnabled && eventIsEnabled ctx eventId

/-- Whether the caller is to write its parameters. No result: the call never returns. -/
def emitStart : Option (Bool × Context) :=
  if !isActive ctx eventId then some (false, ctx)
  else if ringAvailable ctx < needed ctx ts eventId extraBytes then
    if ctx.overrunPolicy = .overwrite then overwriteStart ctx ts eventId extraBytes
    else some (false, dropEvent ctx)
  else some (true, roomStart ctx ts eventId extraBytes)

/-- What the caller writes after a prologue that let it. -/
def onStarted (put : Context → Context) : Bool × Context → Context
  | (true, ctx) => put ctx
  | (false, ctx) => ctx

def emit0 : Option Context :=
  (emitStart ctx ts eventId 0).map (onStarted fun ctx => ctx)

def emit1 (ts eventId a : UInt32) : Option Context :=
  (emitStart ctx ts eventId (leb128Size a.toNat)).map (onStarted fun ctx => ringPutLeb128 ctx a.toNat)

def emit2 (ts eventId a b : UInt32) : Option Context :=
  (emitStart ctx ts eventId (leb128Size a.toNat + leb128Size b.toNat)).map
    (onStarted fun ctx => ringPutLeb128 (ringPutLeb128 ctx a.toNat) b.toNat)

def emit3 (ts eventId a b c : UInt32) : Option Context :=
  (emitStart ctx ts eventId (leb128Size a.toNat + leb128Size b.toNat + leb128Size c.toNat)).map
    (onStarted fun ctx => ringPutLeb128 (ringPutLeb128 (ringPutLeb128 ctx a.toNat) b.toNat) c.toNat)

/-- The characters of a C string that starts with these bytes. -/
def cString (name : List UInt8) : List UInt8 := name.takeWhile (· != 0)

def isPrintable (byte : UInt8) : Bool := !(byte < 0x20 || byte > 0x7E)

def nameExtra (objType objId : UInt32) (strLen : Nat) : Nat :=
  word32 (leb128Size objType.toNat + leb128Size objId.toNat + leb128Size strLen + strLen)

/-- The index over the name is 32 bits wide: it never gets to the end of a longer one. -/
def emitName (ts eventId objType objId : UInt32) (name : List UInt8) : Option Context :=
  let name := cString name
  if !(name.take (2 ^ 32)).all isPrintable then some ctx
  else if name.length ≥ 2 ^ 32 then none
  else
    (emitStart ctx ts eventId (nameExtra objType objId name.length)).map
      (onStarted fun ctx =>
        let ctx := ringPutLeb128 ctx objType.toNat
        let ctx := ringPutLeb128 ctx objId.toNat
        let ctx := ringPutLeb128 ctx name.length
        ringPutAll ctx name)

def setWord (mask : Nat → UInt32) (wordIdx : Nat) (word : UInt32) : Nat → UInt32 := fun i =>
  if i = wordIdx then word else mask i

def filterEnableEvent (eventId : UInt32) : Context :=
  if eventId ≥ 256 then ctx
  else
    let wordIdx := (eventId / 32).toNat
    { ctx with
      enabledEventsMask :=
        setWord ctx.enabledEventsMask wordIdx (ctx.enabledEventsMask wordIdx ||| (1 <<< (eventId % 32))) }

def filterDisableEvent (eventId : UInt32) : Context :=
  if eventId ≥ 256 then ctx
  else
    let wordIdx := (eventId / 32).toNat
    { ctx with
      enabledEventsMask :=
        setWord ctx.enabledEventsMask wordIdx (ctx.enabledEventsMask wordIdx &&& ~~~(1 <<< (eventId % 32))) }

def filterEnableAll : Context :=
  { ctx with enabledEventsMask := fun _ => 0xFFFFFFFF }

def filterDisableAll : Context :=
  { ctx with enabledEventsMask := setWord (fun _ => 0) 0 coreProtectedMask }

def filterEnableModule (moduleBase : UInt32) : Context :=
  if moduleBase ≥ 256 then ctx
  else { ctx with enabledEventsMask := setWord ctx.enabledEventsMask (moduleBase / 32).toNat 0xFFFFFFFF }

def filterDisableModule (moduleBase : UInt32) : Context :=
  if moduleBase ≥ 256 then ctx
  else
    let wordIdx := (moduleBase / 32).toNat
    { ctx with
      enabledEventsMask := setWord ctx.enabledEventsMask wordIdx (if wordIdx = 0 then coreProtectedMask else 0) }

def initContext (config : Config) (absTs : UInt32) : Context where
  buffer := config.buffer
  capacityBytes := config.capacityBytes
  writePos := 0
  readPos := 0
  droppedCount := 0
  lastTimestamp := absTs
  isGapPending := false
  overrunPolicy := config.overrunPolicy
  enabledEventsMask := fun _ => 0xFFFFFFFF
  timestampHz := config.timestampHz
  hasTransport := config.hasTransport
  isInitialized := true
  isEnabled := config.isEnabled

def init (config : Config) (absTs : UInt32) : Except Error Context :=
  if config.capacityBytes < minCapacityBytes then .error .invalidArg
  else if config.timestampHz = 0 then .error .invalidArg
  else
    let ctx := initContext config absTs
    if !ctx.isEnabled then .ok ctx
    else if ringAvailable ctx ≥ recordSize (1 + leb128Size absTs.toNat + leb128Size config.timestampHz.toNat) then
      .ok (ringPutBoot ctx absTs)
    else .ok { ctx with droppedCount := ctx.droppedCount + 1 }

/-- Calls that may come at any time, also from inside the transport's write. -/
inductive Call where
  | emit0 (eventId : UInt32)
  | emit1 (eventId a : UInt32)
  | emit2 (eventId a b : UInt32)
  | emit3 (eventId a b c : UInt32)
  | emitName (eventId objType objId : UInt32) (name : List UInt8)
  | filterEnableEvent (eventId : UInt32)
  | filterDisableEvent (eventId : UInt32)
  | filterEnableAll
  | filterDisableAll
  | filterEnableModule (moduleBase : UInt32)
  | filterDisableModule (moduleBase : UInt32)

/-- A call at the given reading of the timestamp source. -/
def Call.run (ts : UInt32) : Call → Option Context
  | .emit0 eventId => Trace.emit0 ctx ts eventId
  | .emit1 eventId a => Trace.emit1 ctx ts eventId a
  | .emit2 eventId a b => Trace.emit2 ctx ts eventId a b
  | .emit3 eventId a b c => Trace.emit3 ctx ts eventId a b c
  | .emitName eventId objType objId name => Trace.emitName ctx ts eventId objType objId name
  | .filterEnableEvent eventId => some (Trace.filterEnableEvent ctx eventId)
  | .filterDisableEvent eventId => some (Trace.filterDisableEvent ctx eventId)
  | .filterEnableAll => some (Trace.filterEnableAll ctx)
  | .filterDisableAll => some (Trace.filterDisableAll ctx)
  | .filterEnableModule moduleBase => some (Trace.filterEnableModule ctx moduleBase)
  | .filterDisableModule moduleBase => some (Trace.filterDisableModule ctx moduleBase)

end XSDK.Trace
