import XSDK.Trace.Session
import XSDK.Trace.Wire

/-! What an Emit call does to the ring: the records it appends when there is room. -/
namespace XSDK.Trace

open Library

variable {ctx ctx' : Context} {bytes more : List UInt8} {ts eventId : UInt32}

structure Context.Placed (ctx : Context) : Prop where
  read : ctx.readPos < ctx.capacityBytes
  write : ctx.writePos < ctx.capacityBytes

theorem length_contents (ctx : Context) :
    ctx.contents.length = Ring.used ctx.capacityBytes ctx.readPos ctx.writePos := Ring.length_contents

theorem length_contents_lt (placed : ctx.Placed) : ctx.contents.length < ctx.capacityBytes := by
  rw [length_contents]
  exact Ring.used_lt placed.write

theorem ringAvailable_eq (placed : ctx.Placed) : ringAvailable ctx = ctx.capacityBytes - ctx.contents.length - 1 := by
  have read := placed.read
  have write := placed.write
  rw [length_contents, ringAvailable, Ring.used]
  split <;> omega

structure Grows (ctx : Context) (bytes : List UInt8) (ctx' : Context) : Prop where
  placed : ctx'.Placed
  contents : ctx'.contents = ctx.contents ++ bytes
  same : ctx' = { ctx with buffer := ctx'.buffer, writePos := ctx'.writePos }

theorem Grows.readPos (grows : Grows ctx bytes ctx') : ctx'.readPos = ctx.readPos := by
  rw [grows.same]

theorem Grows.capacityBytes (grows : Grows ctx bytes ctx') : ctx'.capacityBytes = ctx.capacityBytes := by
  rw [grows.same]

theorem Grows.length (grows : Grows ctx bytes ctx') : ctx'.contents.length = ctx.contents.length + bytes.length := by
  rw [grows.contents, List.length_append]

theorem ringPut_grows (placed : ctx.Placed) (byte : UInt8) (room : ctx.contents.length + 1 < ctx.capacityBytes) :
    Grows ctx [byte] (ringPut ctx byte) := by
  rw [length_contents] at room
  constructor
  · constructor
    · exact placed.read
    · exact Ring.next_lt placed.write
  · exact Ring.contents_put placed.read placed.write room
  · rfl

theorem Grows.trans {later : Context} (first : Grows ctx bytes ctx') (second : Grows ctx' more later) :
    Grows ctx (bytes ++ more) later := by
  constructor
  · exact second.placed
  · rw [second.contents, first.contents, List.append_assoc]
  · rw [second.same, first.same]

theorem ringPutAll_append (ctx : Context) (bytes more : List UInt8) :
    ringPutAll ctx (bytes ++ more) = ringPutAll (ringPutAll ctx bytes) more := List.foldl_append

theorem ringPutAll_grows (placed : ctx.Placed) (bytes : List UInt8)
    (room : ctx.contents.length + bytes.length < ctx.capacityBytes) : Grows ctx bytes (ringPutAll ctx bytes) := by
  induction bytes generalizing ctx with
  | nil => exact ⟨placed, (List.append_nil _).symm, rfl⟩
  | cons byte bytes ih =>
    rw [List.length_cons] at room
    have first := ringPut_grows placed byte (by omega)
    have length := first.length
    have rest := ih first.placed (by
      rw [first.capacityBytes, length, List.length_singleton]
      omega)
    exact first.trans rest

theorem ringPutAll_with (ctx : Context) (bytes : List UInt8) (dropped last : UInt32) (pending : Bool) :
    ringPutAll { ctx with droppedCount := dropped, isGapPending := pending, lastTimestamp := last } bytes =
      { ringPutAll ctx bytes with droppedCount := dropped, isGapPending := pending, lastTimestamp := last } := by
  induction bytes generalizing ctx with
  | nil => rfl
  | cons byte bytes ih => exact ih (ringPut ctx byte)

theorem ringPutAll_timed (ctx : Context) (bytes : List UInt8) (last : UInt32) :
    ringPutAll { ctx with lastTimestamp := last } bytes = { ringPutAll ctx bytes with lastTimestamp := last } := by
  induction bytes generalizing ctx with
  | nil => rfl
  | cons byte bytes ih => exact ih (ringPut ctx byte)

theorem ringPutAll_timestampHz (ctx : Context) (bytes : List UInt8) :
    (ringPutAll ctx bytes).timestampHz = ctx.timestampHz := by
  induction bytes generalizing ctx with
  | nil => rfl
  | cons byte bytes ih => exact ih (ringPut ctx byte)

/-- The record of an event, and that of a pending gap, with the given delta. -/
def Event.record (e : Event) (delta : UInt32) : RawRecord := ⟨e.eventId.toNat, delta.toNat, e.params⟩

def gapRecord (delta dropped : UInt32) : RawRecord := ⟨evGap.toNat, delta.toNat, [dropped.toNat]⟩

def bootRecord (timestamp hz : UInt32) : RawRecord := ⟨evBoot.toNat, timestamp.toNat, [hz.toNat]⟩

def Event.paramBytes (e : Event) : List UInt8 := e.params.flatMap Leb128.encode

theorem ringPutGap_eq (ctx : Context) (delta dropped : UInt32) :
    ringPutGap ctx delta dropped = ringPutAll ctx (wire [gapRecord delta dropped]) := by
  have length : 1 + leb128Size delta.toNat + leb128Size dropped.toNat = (gapRecord delta dropped).payload.length := by
    simp [gapRecord, RawRecord.payload, leb128Size, evGap, Leb128.size_of_lt, Nat.add_assoc]
  have put (ctx : Context) : ringPut ctx evGap.toUInt8 = ringPutAll ctx (Leb128.encode evGap.toNat) := rfl
  rw [ringPutGap, length, put]
  simp only [ringPutLeb128, ← ringPutAll_append]
  simp [wire, Prefixed.block, RawRecord.payload, gapRecord]

theorem ringPutBoot_eq (ctx : Context) (timestamp : UInt32) :
    ringPutBoot ctx timestamp = ringPutAll ctx (wire [bootRecord timestamp ctx.timestampHz]) := by
  have length : 1 + leb128Size timestamp.toNat + leb128Size ctx.timestampHz.toNat =
      (bootRecord timestamp ctx.timestampHz).payload.length := by
    simp [bootRecord, RawRecord.payload, leb128Size, evBoot, Leb128.size_of_lt, Nat.add_assoc]
  have put (ctx : Context) : ringPut ctx evBoot.toUInt8 = ringPutAll ctx (Leb128.encode evBoot.toNat) := rfl
  rw [ringPutBoot, length, put]
  simp only [ringPutLeb128, ringPutAll_timestampHz, ← ringPutAll_append]
  simp [wire, Prefixed.block, RawRecord.payload, bootRecord]

theorem putHeader_params (ctx : Context) (ts delta : UInt32) (e : Event) {extraBytes : Nat}
    (length : eventPayload e.eventId delta extraBytes = (e.record delta).payload.length) :
    ringPutAll (putHeader ctx ts e.eventId delta extraBytes) e.paramBytes =
      { ringPutAll ctx (wire [e.record delta]) with lastTimestamp := ts } := by
  rw [putHeader, length]
  simp only [ringPutLeb128, ringPutAll_timed, ← ringPutAll_append]
  simp [wire, Prefixed.block, RawRecord.payload, Event.record, Event.paramBytes]

def Context.fresh (ctx : Context) (ts : UInt32) (e : Event) : List RawRecord :=
  if ctx.isGapPending then [gapRecord (ts - ctx.lastTimestamp) ctx.droppedCount, e.record 0]
  else [e.record (ts - ctx.lastTimestamp)]

theorem length_record (e : Event) (delta : UInt32) :
    (e.record delta).payload.length = leb128Size e.eventId.toNat + leb128Size delta.toNat + e.paramBytes.length := by
  simp [Event.record, RawRecord.payload, Event.paramBytes, leb128Size, Nat.add_assoc]

theorem length_gapRecord (delta dropped : UInt32) :
    (gapRecord delta dropped).payload.length = 1 + leb128Size delta.toNat + leb128Size dropped.toNat := by
  simp [gapRecord, RawRecord.payload, leb128Size, evGap, Leb128.size_of_lt, Nat.add_assoc]

theorem leb128Size_word (v : UInt32) : leb128Size v.toNat ≤ 5 := by
  have lt := v.toNat_lt
  exact Leb128.size_le_iff.mpr (by omega)

theorem length_wire_singleton (r : RawRecord) :
    (wire [r]).length = leb128Size r.payload.length + r.payload.length := by
  simp [wire, Prefixed.length_block, leb128Size]

def Modest (records : List RawRecord) : Prop := ∀ r ∈ records, r.payload.length < 2 ^ 30

section Event

variable {e : Event} {extraBytes : Nat}

theorem eventPayload_eq {delta : UInt32} (extra : extraBytes = word32 e.paramBytes.length)
    (small : e.paramBytes.length < 2 ^ 30) :
    eventPayload e.eventId delta extraBytes = (e.record delta).payload.length := by
  have id := leb128Size_word e.eventId
  have delta_size := leb128Size_word delta
  rw [length_record, eventPayload, extra, word32_of_lt (x := e.paramBytes.length) (by omega), word32_of_lt (by omega)]

theorem recordSize_eq {payload : Nat} (small : payload < 2 ^ 31) :
    recordSize payload = leb128Size payload + payload := by
  have size : leb128Size payload ≤ 4 + 1 := Leb128.size_le_iff.mpr (by omega)
  exact word32_of_lt (by omega)

theorem leb128Size_zero_le (delta : UInt32) : leb128Size (0 : UInt32).toNat ≤ leb128Size delta.toNat :=
  Leb128.size_mono (Nat.zero_le _)

theorem small_of_fresh (modest : Modest (ctx.fresh ts e)) : e.paramBytes.length < 2 ^ 30 := by
  have last : ∃ delta, e.record delta ∈ ctx.fresh ts e := by
    rw [Context.fresh]
    split
    · exact ⟨_, List.mem_cons_of_mem _ List.mem_cons_self⟩
    · exact ⟨_, List.mem_cons_self⟩
  obtain ⟨delta, mem⟩ := last
  have bound := modest _ mem
  rw [length_record] at bound
  omega

theorem fresh_le_needed (extra : extraBytes = word32 e.paramBytes.length) (modest : Modest (ctx.fresh ts e)) :
    (wire (ctx.fresh ts e)).length ≤ needed ctx ts e.eventId extraBytes := by
  have small := small_of_fresh modest
  have id := leb128Size_word e.eventId
  have delta := leb128Size_word (ts - ctx.lastTimestamp)
  have dropped := leb128Size_word ctx.droppedCount
  have payload := length_record e (ts - ctx.lastTimestamp)
  have event : recordSize (eventPayload e.eventId (ts - ctx.lastTimestamp) extraBytes) =
      (wire [e.record (ts - ctx.lastTimestamp)]).length := by
    rw [eventPayload_eq extra small, recordSize_eq (by omega), length_wire_singleton]
  have event_size : leb128Size (e.record (ts - ctx.lastTimestamp)).payload.length ≤ 4 + 1 :=
    Leb128.size_le_iff.mpr (by omega)
  have event_length := length_wire_singleton (e.record (ts - ctx.lastTimestamp))
  by_cases pending : ctx.isGapPending
  · have gap_payload := length_gapRecord (ts - ctx.lastTimestamp) ctx.droppedCount
    have gap : gapSize ctx (ts - ctx.lastTimestamp) =
        (wire [gapRecord (ts - ctx.lastTimestamp) ctx.droppedCount]).length := by
      rw [gapSize, if_pos pending, ← gap_payload, recordSize_eq (by omega), length_wire_singleton]
    have gap_size : leb128Size (gapRecord (ts - ctx.lastTimestamp) ctx.droppedCount).payload.length ≤ 4 + 1 :=
      Leb128.size_le_iff.mpr (by omega)
    have gap_length := length_wire_singleton (gapRecord (ts - ctx.lastTimestamp) ctx.droppedCount)
    -- The event after the gap carries a delta of zero, which is never longer.
    have shorter : (e.record 0).payload.length ≤ (e.record (ts - ctx.lastTimestamp)).payload.length := by
      have le := leb128Size_zero_le (ts - ctx.lastTimestamp)
      have zero := length_record e 0
      omega
    have mono : leb128Size (e.record 0).payload.length ≤
        leb128Size (e.record (ts - ctx.lastTimestamp)).payload.length := Leb128.size_mono shorter
    have last_length := length_wire_singleton (e.record 0)
    have both : wire (ctx.fresh ts e) =
        wire [gapRecord (ts - ctx.lastTimestamp) ctx.droppedCount] ++ wire [e.record 0] := by
      rw [Context.fresh, if_pos pending, ← wire_append]
      rfl
    rw [both, List.length_append, needed]
    rw [gap, event, word32_of_lt (by omega)]
    omega
  · have one : ctx.fresh ts e = [e.record (ts - ctx.lastTimestamp)] := by
      rw [Context.fresh, if_neg pending]
    rw [one, needed]
    rw [gapSize, if_neg pending, event, word32_of_lt (by omega)]
    omega

def Context.afterEvent (ctx : Context) (ts : UInt32) (grown : Context) : Context :=
  { grown with
    droppedCount := if ctx.isGapPending then 0 else ctx.droppedCount
    isGapPending := false
    lastTimestamp := ts }

theorem roomStart_params (extra : extraBytes = word32 e.paramBytes.length) (small : e.paramBytes.length < 2 ^ 30) :
    ringPutAll (roomStart ctx ts e.eventId extraBytes) e.paramBytes =
      ctx.afterEvent ts (ringPutAll ctx (wire (ctx.fresh ts e))) := by
  by_cases pending : ctx.isGapPending
  · have both : wire (ctx.fresh ts e) =
        wire [gapRecord (ts - ctx.lastTimestamp) ctx.droppedCount] ++ wire [e.record 0] := by
      rw [Context.fresh, if_pos pending, ← wire_append]
      rfl
    rw [roomStart, if_pos pending, putHeader_params _ _ _ _ (eventPayload_eq extra small), ringPutGap_eq,
      ringPutAll_with, both, ringPutAll_append, Context.afterEvent, if_pos pending]
  · have none_pending : ctx.isGapPending = false := by simpa using pending
    have one : ctx.fresh ts e = [e.record (ts - ctx.lastTimestamp)] := by
      rw [Context.fresh, if_neg pending]
    have unchanged := ringPutAll_with ctx (wire [e.record (ts - ctx.lastTimestamp)]) ctx.droppedCount ts false
    have same : { ctx with droppedCount := ctx.droppedCount, isGapPending := false, lastTimestamp := ts } =
        { ctx with lastTimestamp := ts } := by rw [← none_pending]
    rw [same, ringPutAll_timed] at unchanged
    rw [roomStart, if_neg pending, putHeader_params _ _ _ _ (eventPayload_eq extra small), one, Context.afterEvent,
      if_neg pending, unchanged]

theorem emitStart_room (placed : ctx.Placed) (active : isActive ctx e.eventId = true)
    (room : ¬ ringAvailable ctx < needed ctx ts e.eventId extraBytes)
    (extra : extraBytes = word32 e.paramBytes.length) (modest : Modest (ctx.fresh ts e)) :
    emitStart ctx ts e.eventId extraBytes = some (true, roomStart ctx ts e.eventId extraBytes) ∧
      ∃ grown, Grows ctx (wire (ctx.fresh ts e)) grown ∧
        ringPutAll (roomStart ctx ts e.eventId extraBytes) e.paramBytes = ctx.afterEvent ts grown := by
  constructor
  · rw [emitStart, active, if_neg room]
    rfl
  · have fits := fresh_le_needed extra modest
    have available := ringAvailable_eq placed
    have free := length_contents_lt placed
    refine ⟨_, ringPutAll_grows placed _ ?_, roomStart_params extra (small_of_fresh modest)⟩
    omega

theorem emitStart_drop (policy : ctx.overrunPolicy = .drop) (active : isActive ctx e.eventId = true)
    (full : ringAvailable ctx < needed ctx ts e.eventId extraBytes) :
    emitStart ctx ts e.eventId extraBytes = some (false, dropEvent ctx) := by
  rw [emitStart, active, if_pos full, policy]
  rfl

theorem emitStart_inactive (inactive : isActive ctx e.eventId = false) :
    emitStart ctx ts e.eventId extraBytes = some (false, ctx) := by
  rw [emitStart, inactive]
  rfl

end Event

end XSDK.Trace
