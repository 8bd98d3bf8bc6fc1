import XSDK.Trace.DropStream

/-! Counting the records in the ring: right whenever the ring starts with a whole record. -/
namespace XSDK.Trace

open Library

variable {ctx : Context} {k v : Nat} {bytes more : List UInt8} {b : UInt8}

theorem peek_eq (there : ctx.contents.drop k = b :: more) :
    ringPeekByte ctx ((ctx.readPos + k) % ctx.capacityBytes) = b := by
  have lt : k < ctx.contents.length := by
    have length := congrArg List.length there
    rw [List.length_drop, List.length_cons] at length
    omega
  have byte : ctx.contents[k] = b := by
    rw [List.drop_eq_getElem_cons lt] at there
    exact (List.cons.inj there).1
  rw [← byte, ringPeekByte, Nat.mod_mod]
  simp only [Context.contents, Ring.contents, List.getElem_map, List.getElem_range]

theorem drop_step (there : ctx.contents.drop k = b :: more) : ctx.contents.drop (k + 1) = more := by
  rw [← List.drop_drop, there]
  rfl

theorem advance_one (ctx : Context) (k : Nat) :
    ((ctx.readPos + k) % ctx.capacityBytes + 1) % ctx.capacityBytes =
    (ctx.readPos + (k + 1)) % ctx.capacityBytes := by
  rw [Nat.mod_add_mod, Nat.add_assoc]

theorem peekPrefix_encode {rounds shift payloadLen prefixBytes : Nat}
    (there : ctx.contents.drop k = Leb128.encode v ++ more) (enough : Leb128.size v ≤ rounds)
    (groups : shift + 7 * Leb128.size v ≤ 35) (small : payloadLen < 2 ^ shift)
    (word : payloadLen + v * 2 ^ shift < 2 ^ 32) :
    peekPrefix ctx rounds ((ctx.readPos + k) % ctx.capacityBytes) payloadLen shift prefixBytes =
      (payloadLen + v * 2 ^ shift, prefixBytes + Leb128.size v,
        (ctx.readPos + (k + Leb128.size v)) % ctx.capacityBytes) := by
  induction v using Leb128.groups generalizing k rounds shift payloadLen prefixBytes with
  | last v last =>
    have byte := Leb128.toNat_ofNat_of_lt (v := v) (by omega)
    rw [Leb128.encode_of_lt last, List.singleton_append] at there
    rw [Leb128.size_of_lt last] at enough
    obtain ⟨rounds, rfl⟩ : ∃ r, rounds = r + 1 := Nat.exists_eq_add_of_le' enough
    have group : word32 (v <<< shift) = v <<< shift := by
      rw [Nat.shiftLeft_eq]
      exact word32_of_lt (by omega)
    rw [peekPrefix, peek_eq there]
    simp only [byte, Nat.mod_eq_of_lt last, group, or_shift small, advance_one]
    rw [if_neg (by omega), Leb128.size_of_lt last]
  | more v big ih =>
    have pos := Leb128.size_pos (v / 128)
    rw [Leb128.encode_of_le big, List.cons_append] at there
    rw [Leb128.size_of_le big] at enough groups
    obtain ⟨rounds, rfl⟩ : ∃ r, rounds = r + 1 := Nat.exists_eq_add_of_le' (by omega)
    have sum := group_sum payloadLen v shift
    have group : word32 ((v % 128) <<< shift) = (v % 128) <<< shift := by
      rw [Nat.shiftLeft_eq]
      exact word32_of_lt (by omega)
    have next_word : (payloadLen ||| (v % 128) <<< shift) + v / 128 * 2 ^ (shift + 7) < 2 ^ 32 := by
      rw [or_shift small, sum]
      exact word
    have step := @ih (k + 1) rounds (shift + 7) (payloadLen ||| (v % 128) <<< shift) (prefixBytes + 1)
      (drop_step there) (Nat.le_of_succ_le_succ enough) (by omega) (or_shift_lt (x := v % 128) small (by omega)) next_word
    rw [peekPrefix, peek_eq there]
    simp only [toNat_more, low_more, group, advance_one]
    rw [if_pos (by omega), step, or_shift small, sum, Leb128.size_of_le big]
    congr 2
    · omega
    · congr 1
      omega

theorem countRecords_wire {rs : List RawRecord} {rounds : Nat} {count : UInt32} (placed : ctx.Placed)
    (readable : ∀ r ∈ rs, r.Readable) (there : ctx.contents.drop k = wire rs) (inside : k ≤ ctx.contents.length)
    (enough : rs.length < rounds) :
    countRecords ctx rounds ((ctx.readPos + k) % ctx.capacityBytes) k count =
      some (count + UInt32.ofNat rs.length) := by
  have length := length_contents ctx
  have lt := length_contents_lt placed
  induction rs generalizing k rounds count with
  | nil =>
    obtain ⟨rounds, rfl⟩ : ∃ r, rounds = r + 1 := Nat.exists_eq_add_of_le' enough
    have all : k = ctx.contents.length := by
      have empty := List.drop_eq_nil_iff.mp there
      omega
    have at_end : (ctx.readPos + k) % ctx.capacityBytes = ctx.writePos := by
      rw [all, length]
      exact Ring.write_position placed.read placed.write
    rw [countRecords, if_neg (by simp [at_end])]
    simp
  | cons r rs ih =>
    obtain ⟨rounds, rfl⟩ : ∃ r, rounds = r + 1 := Nat.exists_eq_add_of_le' (Nat.lt_of_le_of_lt (Nat.zero_le _) enough)
    have short := (readable r List.mem_cons_self).short
    rw [wire_cons, Prefixed.block, List.append_assoc] at there
    have size : Leb128.size r.payload.length ≤ 3 + 1 := Leb128.size_le_iff.mpr short
    have pos := Leb128.size_pos r.payload.length
    have bytes := congrArg List.length there
    simp only [List.length_drop, List.length_append, Leb128.length_encode] at bytes
    have waiting : (ctx.readPos + k) % ctx.capacityBytes ≠ ctx.writePos :=
      Ring.write_apart placed.read placed.write (by omega)
    have head : peekPrefix ctx 5 ((ctx.readPos + k) % ctx.capacityBytes) 0 0 0 =
        (0 + r.payload.length * 2 ^ 0, 0 + Leb128.size r.payload.length,
          (ctx.readPos + (k + Leb128.size r.payload.length)) % ctx.capacityBytes) :=
      peekPrefix_encode there (by omega) (by omega) (by decide) (by omega)
    have after : ctx.contents.drop (k + (Leb128.size r.payload.length + r.payload.length)) = wire rs := by
      rw [← Nat.add_assoc, ← List.drop_drop, ← List.drop_drop, there, ← Leb128.length_encode, List.drop_left,
        List.drop_left]
    have rest := @ih (k + (Leb128.size r.payload.length + r.payload.length)) rounds (count + 1)
      (fun r mem => readable r (List.mem_cons_of_mem _ mem)) after (by omega) (Nat.lt_of_succ_lt_succ enough)
    have step : count + 1 + UInt32.ofNat rs.length = count + UInt32.ofNat (rs.length + 1) := by
      rw [UInt32.ofNat_add, UInt32.add_assoc, UInt32.add_comm 1]
      rfl
    rw [countRecords, if_pos ⟨waiting, by omega⟩, head]
    simp only [Nat.zero_add, Nat.pow_zero, Nat.mul_one, Nat.mod_add_mod]
    rw [word32_of_lt (by omega), Nat.add_assoc, Nat.add_assoc, rest, List.length_cons, step]

theorem ringRecordCount_wire {rs : List RawRecord} (placed : ctx.Placed) (readable : ∀ r ∈ rs, r.Readable)
    (waiting : ctx.contents = wire rs) : ringRecordCount ctx = some (UInt32.ofNat rs.length) := by
  have lt := length_contents_lt placed
  have length := length_le_wire rs
  rw [waiting] at lt
  have enough : rs.length < (ctx.capacityBytes + 1) * (ctx.capacityBytes + 1) := by
    have le : ctx.capacityBytes + 1 ≤ (ctx.capacityBytes + 1) * (ctx.capacityBytes + 1) :=
      Nat.le_mul_of_pos_right _ (Nat.succ_pos _)
    omega
  have start : (ctx.readPos + 0) % ctx.capacityBytes = ctx.readPos := Nat.mod_eq_of_lt placed.read
  have counted : countRecords ctx ((ctx.capacityBytes + 1) * (ctx.capacityBytes + 1))
      ((ctx.readPos + 0) % ctx.capacityBytes) 0 0 = some (0 + UInt32.ofNat rs.length) :=
    countRecords_wire placed readable waiting (Nat.zero_le _) enough
  rw [start, UInt32.zero_add] at counted
  exact counted

end XSDK.Trace

/-! The OVERWRITE policy: the stream stays decodable and every loss is told of, as long as
the ring is given up between records, outside a write that takes bytes, and holds as many
BOOT and GAP records as its GAPs have counted. -/
namespace XSDK.Trace

open Library

variable {config : Config} {bootTs ts : UInt32} {s s' : Session} {c : Call} {e : Event} {rs more : List RawRecord}
  {t : Nat}

/-! The host's view of a list of records. -/

variable (r : RawRecord)

def RawRecord.isGap : Bool := r.eventId == evGap.toNat
def RawRecord.isBoot : Bool := r.eventId == evBoot.toNat
def RawRecord.isEvent : Bool := !r.isGap && !r.isBoot

def RawRecord.told : Nat := if r.isGap then r.params.sum else 0

def eventCount (rs : List RawRecord) : Nat := rs.countP (·.isEvent)
def toldTotal (rs : List RawRecord) : Nat := (rs.map (·.told)).sum

/-- The time after a record: a BOOT record sets it, another one moves it. -/
def RawRecord.time (t : Nat) (r : RawRecord) : Nat := if r.isBoot then r.deltaTs else word32 (t + r.deltaTs)

def timeAfter (t : Nat) (rs : List RawRecord) : Nat := rs.foldl RawRecord.time t

def timedEvents (t : Nat) : List RawRecord → List (Nat × Nat × List Nat)
  | [] => []
  | r :: rs =>
    (if r.isEvent then [(r.time t, r.eventId, r.params)] else []) ++ timedEvents (r.time t) rs

def Attempt.timed (a : Attempt) : Nat × Nat × List Nat := (a.ts.toNat, a.event.eventId.toNat, a.event.params)

theorem eventCount_append : eventCount (rs ++ more) = eventCount rs + eventCount more := List.countP_append

theorem toldTotal_append : toldTotal (rs ++ more) = toldTotal rs + toldTotal more := by
  simp [toldTotal]

theorem timeAfter_append : timeAfter t (rs ++ more) = timeAfter (timeAfter t rs) more := List.foldl_append

theorem timedEvents_append : timedEvents t (rs ++ more) = timedEvents t rs ++ timedEvents (timeAfter t rs) more := by
  induction rs generalizing t with
  | nil => rfl
  | cons r rs ih =>
    rw [List.cons_append, timedEvents, ih, timedEvents, List.append_assoc]
    rfl

/-- The claims on a session: everything parses, every event was a call with this id, these
parameters and this timestamp, in the order of the calls, and no call is lost track of. -/
structure Accounted (s : Session) (rs : List RawRecord) : Prop where
  read : recordsFromStream s.bytes = (rs, .cleanEof)
  timed : (timedEvents 0 rs).Sublist (s.attempts.map Attempt.timed)
  counted : s.attempts.length = eventCount rs + toldTotal rs + s.ctx.droppedCount.toNat

/-- Whether a ring with nothing but BOOT, GAP and the event would hold them. -/
def resetFits (ctx : Context) (ts : UInt32) (e : Event) (extraBytes : Nat) (overwritten : UInt32) : Prop :=
  word32 (recordSize (1 + leb128Size ts.toNat + leb128Size ctx.timestampHz.toNat) +
    recordSize (1 + leb128Size 0 + leb128Size (ctx.droppedCount + overwritten).toNat) +
    recordSize (eventPayload e.eventId 0 extraBytes)) < ctx.capacityBytes

/-- Whether an event that finds no room makes the ring give way. -/
def Resets (ctx : Context) (ts : UInt32) (e : Event) (extraBytes : Nat) : Prop :=
  ∃ overwritten, ringRecordCount ctx = some overwritten ∧ resetFits ctx ts e extraBytes overwritten

def Session.waitingRecords (s : Session) : List RawRecord := (recordsFromStream s.waiting).1

/-- What was sent so far is whole records. -/
def OnBoundary (s : Session) : Prop := ∃ rs, (∀ r ∈ rs, r.Readable) ∧ s.sent = wire rs

/-- As many BOOT and GAP records as the GAPs tell losses of. -/
def Balanced (rs : List RawRecord) : Prop := rs.length = eventCount rs + toldTotal rs

/-- A ring gives way between two records only, not inside a write that takes bytes, with
balanced records and no wrap of their count. -/
structure ResetCareful (taken : Bool) (s : Session) (e : Event) : Prop where
  outside : taken = false
  boundary : OnBoundary s
  balanced : Balanced s.waitingRecords
  counter : s.ctx.droppedCount.toNat + s.waitingRecords.length < 2 ^ 32
  short : (e.record 0).payload.length < 2 ^ 28

/-- The events of the application are neither BOOT nor GAP and stay below the reader's
limit, resets are careful, and one that is dropped finds the counter below its last value. -/
def OverwriteCareful : CallCondition := fun taken s ts c =>
  ∀ e, c.event = some e → isActive s.ctx e.eventId = true →
    (e.eventId ≠ evGap ∧ e.eventId ≠ evBoot) ∧
    (¬ isFull s.ctx ts e c.extraBytes → (e.record (s.ctx.eventDelta ts)).payload.length < 2 ^ 28) ∧
    (isFull s.ctx ts e c.extraBytes → Resets s.ctx ts e c.extraBytes → ResetCareful taken s e) ∧
    (isFull s.ctx ts e c.extraBytes → ¬ Resets s.ctx ts e c.extraBytes → s.ctx.droppedCount.toNat + 1 < 2 ^ 32)

structure Accounting (s : Session) : Prop where
  placed : s.ctx.Placed
  policy : s.ctx.overrunPolicy = .overwrite
  stream : ∃ rs, s.bytes = wire rs ∧ (∀ r ∈ rs, r.Readable) ∧
    (timedEvents 0 rs).Sublist (s.attempts.map Attempt.timed) ∧
    s.attempts.length = eventCount rs + toldTotal rs + s.ctx.droppedCount.toNat ∧
    (s.ctx.isEnabled = true → timeAfter 0 rs = s.ctx.lastTimestamp.toNat)

theorem event_isEvent (delta : UInt32) (own : e.eventId ≠ evGap ∧ e.eventId ≠ evBoot) :
    (e.record delta).isEvent = true := by
  have gap : ¬ e.eventId.toNat = evGap.toNat := fun same => own.1 (UInt32.toNat_inj.mp same)
  have boot : ¬ e.eventId.toNat = evBoot.toNat := fun same => own.2 (UInt32.toNat_inj.mp same)
  simp [RawRecord.isEvent, RawRecord.isGap, RawRecord.isBoot, Event.record, gap, boot]

structure Adds (fresh : List RawRecord) (ts : UInt32) (e : Event) (t lost : Nat) : Prop where
  events : eventCount fresh = 1
  told : toldTotal fresh = lost
  timed : timedEvents t fresh = [(ts.toNat, e.eventId.toNat, e.params)]
  time : timeAfter t fresh = ts.toNat

variable {extraBytes : Nat} {delta : UInt32} {taken : Bool}

section

variable (own : e.eventId ≠ evGap ∧ e.eventId ≠ evBoot)
include own

theorem event_time (t : Nat) : (e.record delta).time t = word32 (t + delta.toNat) := by
  have event := event_isEvent delta own
  simp only [RawRecord.isEvent, Bool.and_eq_true, Bool.not_eq_true'] at event
  rw [RawRecord.time, event.2, if_neg (by decide)]
  rfl

theorem event_told : (e.record delta).told = 0 := by
  have event := event_isEvent delta own
  simp only [RawRecord.isEvent, Bool.and_eq_true, Bool.not_eq_true'] at event
  rw [RawRecord.told, event.1, if_neg (by decide)]

theorem adds_event
    (time : word32 (t + delta.toNat) = ts.toNat) : Adds [e.record delta] ts e t 0 := by
  have event := event_isEvent delta own
  constructor
  · simp [eventCount, event]
  · simp [toldTotal, event_told own]
  · rw [timedEvents, event, if_pos rfl, event_time own, time]
    rfl
  · rw [timeAfter, List.foldl_cons, event_time own, time]
    rfl

theorem adds_gap {delta dropped : UInt32} (time : word32 (t + delta.toNat) = ts.toNat) :
    Adds [gapRecord delta dropped, e.record 0] ts e t dropped.toNat := by
  have zero : word32 (ts.toNat + (0 : UInt32).toNat) = ts.toNat := word32_of_lt ts.toNat_lt
  have last := adds_event own zero
  have gap : (gapRecord delta dropped).isEvent = false := rfl
  have gap_time : (gapRecord delta dropped).time t = ts.toNat := time
  have gap_told : (gapRecord delta dropped).told = dropped.toNat := by
    simp [RawRecord.told, RawRecord.isGap, gapRecord]
  constructor
  · rw [eventCount, List.countP_cons_of_neg (by simp [gap])]
    exact last.events
  · have told := last.told
    rw [toldTotal, List.map_cons, List.sum_cons, gap_told]
    rw [toldTotal] at told
    omega
  · rw [timedEvents, gap, gap_time, if_neg (by decide), List.nil_append]
    exact last.timed
  · rw [timeAfter, List.foldl_cons, gap_time]
    exact last.time

theorem adds_reset {dropped hz : UInt32} (t : Nat) :
    Adds [bootRecord ts hz, gapRecord 0 dropped, e.record 0] ts e t dropped.toNat := by
  have zero : word32 (ts.toNat + (0 : UInt32).toNat) = ts.toNat := word32_of_lt ts.toNat_lt
  have last : Adds [gapRecord 0 dropped, e.record 0] ts e ts.toNat dropped.toNat := adds_gap own zero
  have boot : (bootRecord ts hz).isEvent = false := rfl
  have boot_time : (bootRecord ts hz).time t = ts.toNat := rfl
  have boot_told : (bootRecord ts hz).told = 0 := rfl
  constructor
  · rw [eventCount, List.countP_cons_of_neg (by simp [boot])]
    exact last.events
  · have told := last.told
    rw [toldTotal, List.map_cons, List.sum_cons, boot_told, Nat.zero_add]
    exact told
  · rw [timedEvents, boot, boot_time, if_neg (by decide), List.nil_append]
    exact last.timed
  · rw [timeAfter, List.foldl_cons, boot_time]
    exact last.time

end

def resetRecords (ctx : Context) (ts : UInt32) (e : Event) (overwritten : UInt32) : List RawRecord :=
  [bootRecord ts ctx.timestampHz, gapRecord 0 (ctx.droppedCount + overwritten), e.record 0]

def emptied (ctx : Context) : Context := { ctx with readPos := ctx.writePos }

theorem emptied_contents (ctx : Context) : (emptied ctx).contents = [] := Ring.contents_self

theorem length_resetRecords (ctx : Context) (ts overwritten : UInt32)
    (extra : extraBytes = word32 e.paramBytes.length) (modest : (e.record 0).payload.length < 2 ^ 30) :
    (wire (resetRecords ctx ts e overwritten)).length =
      word32 (recordSize (1 + leb128Size ts.toNat + leb128Size ctx.timestampHz.toNat) +
        recordSize (1 + leb128Size 0 + leb128Size (ctx.droppedCount + overwritten).toNat) +
        recordSize (eventPayload e.eventId 0 extraBytes)) := by
  have payload := length_record e 0
  have small : e.paramBytes.length < 2 ^ 30 := by omega
  have boot_payload : (bootRecord ts ctx.timestampHz).payload.length =
      1 + leb128Size ts.toNat + leb128Size ctx.timestampHz.toNat := by
    simp [bootRecord, RawRecord.payload, leb128Size, evBoot, Leb128.size_of_lt, Nat.add_assoc]
  have gap_payload := length_gapRecord 0 (ctx.droppedCount + overwritten)
  have zero : leb128Size (0 : UInt32).toNat = leb128Size 0 := rfl
  have ts_size := leb128Size_word ts
  have hz_size := leb128Size_word ctx.timestampHz
  have dropped_size := leb128Size_word (ctx.droppedCount + overwritten)
  have zero_size : leb128Size 0 = 1 := rfl
  have event_size : leb128Size (e.record 0).payload.length ≤ 4 + 1 := Leb128.size_le_iff.mpr (by omega)
  have boot_size : leb128Size (1 + leb128Size ts.toNat + leb128Size ctx.timestampHz.toNat) = 1 :=
    Leb128.size_of_lt (by omega)
  have gap_size : leb128Size (1 + leb128Size 0 + leb128Size (ctx.droppedCount + overwritten).toNat) = 1 :=
    Leb128.size_of_lt (by omega)
  have pieces : wire (resetRecords ctx ts e overwritten) = wire [bootRecord ts ctx.timestampHz] ++
      (wire [gapRecord 0 (ctx.droppedCount + overwritten)] ++ wire [e.record 0]) := by
    rw [← wire_append, ← wire_append]
    rfl
  rw [eventPayload_eq extra small, recordSize_eq (by omega), recordSize_eq (by omega), recordSize_eq (by omega),
    word32_of_lt (by omega), pieces, List.length_append, List.length_append, length_wire_singleton,
    length_wire_singleton, length_wire_singleton, boot_payload, gap_payload, zero]
  omega

theorem ringPutAll_cleared (ctx : Context) (bytes : List UInt8) (dropped : UInt32) (pending : Bool) :
    ringPutAll { ctx with droppedCount := dropped, isGapPending := pending } bytes =
      { ringPutAll ctx bytes with droppedCount := dropped, isGapPending := pending } := by
  induction bytes generalizing ctx with
  | nil => rfl
  | cons byte bytes ih => exact ih (ringPut ctx byte)

variable {overwritten : UInt32}

theorem emitStart_reset {ctx : Context} (placed : ctx.Placed)
    (policy : ctx.overrunPolicy = .overwrite) (active : isActive ctx e.eventId = true)
    (full : isFull ctx ts e extraBytes) (count : ringRecordCount ctx = some overwritten)
    (fits : resetFits ctx ts e extraBytes overwritten) (extra : extraBytes = word32 e.paramBytes.length)
    (modest : (e.record 0).payload.length < 2 ^ 30) :
    ∃ start grown, emitStart ctx ts e.eventId extraBytes = some (true, start) ∧
      Grows (emptied ctx) (wire (resetRecords ctx ts e overwritten)) grown ∧
      ringPutAll start e.paramBytes =
        { grown with droppedCount := 0, isGapPending := false, lastTimestamp := ts } := by
  have payload := length_record e 0
  have small : e.paramBytes.length < 2 ^ 30 := by omega
  have length := length_resetRecords ctx ts overwritten extra modest
  have room : (wire (resetRecords ctx ts e overwritten)).length < ctx.capacityBytes := by
    rw [length]
    exact fits
  have grows : Grows (emptied ctx) (wire (resetRecords ctx ts e overwritten))
      (ringPutAll (emptied ctx) (wire (resetRecords ctx ts e overwritten))) := by
    apply ringPutAll_grows
    · exact ⟨placed.write, placed.write⟩
    · rw [emptied_contents]
      change 0 + _ < ctx.capacityBytes
      omega
  have started : emitStart ctx ts e.eventId extraBytes = overwriteStart ctx ts e.eventId extraBytes := by
    have less : ringAvailable ctx < needed ctx ts e.eventId extraBytes := full
    rw [emitStart, active, if_pos less, policy]
    rfl
  have pieces : wire (resetRecords ctx ts e overwritten) = wire [bootRecord ts ctx.timestampHz] ++
      (wire [gapRecord 0 (ctx.droppedCount + overwritten)] ++ wire [e.record 0]) := by
    rw [← wire_append, ← wire_append]
    rfl
  rw [started, overwriteStart, count, Option.map_some]
  simp only
  rw [if_neg (Nat.not_le_of_lt fits)]
  refine ⟨_, _, rfl, grows, ?_⟩
  rw [putHeader_params _ _ _ _ (eventPayload_eq extra small), ringPutBoot_eq, ringPutGap_eq, pieces,
    ringPutAll_append, ringPutAll_append, ringPutAll_cleared]
  rfl

theorem emitStart_unfit {ctx : Context}
    (policy : ctx.overrunPolicy = .overwrite) (active : isActive ctx e.eventId = true)
    (full : isFull ctx ts e extraBytes) (count : ringRecordCount ctx = some overwritten)
    (unfit : ¬ resetFits ctx ts e extraBytes overwritten) :
    emitStart ctx ts e.eventId extraBytes = some (false, dropEvent ctx) := by
  have less : ringAvailable ctx < needed ctx ts e.eventId extraBytes := full
  rw [emitStart, active, if_pos less, policy]
  change overwriteStart ctx ts e.eventId extraBytes = _
  rw [overwriteStart, count, Option.map_some]
  simp only
  rw [if_pos (Nat.le_of_not_lt unfit)]

structure ResetBy (overwritten : UInt32) (ts : UInt32) (e : Event) (s s' : Session) : Prop where
  writes : s'.writes = s.writes
  attempts : s'.attempts = s.attempts ++ [⟨ts, e, true⟩]
  ctx : ∃ grown, Grows (emptied s.ctx) (wire (resetRecords s.ctx ts e overwritten)) grown ∧
    s'.ctx = { grown with droppedCount := 0, isGapPending := false, lastTimestamp := ts }

theorem ResetBy.waiting (reset : ResetBy overwritten ts e s s') :
    s'.waiting = wire (resetRecords s.ctx ts e overwritten) := by
  obtain ⟨grown, grows, after⟩ := reset.ctx
  have contents := grows.contents
  rw [emptied_contents, List.nil_append] at contents
  rw [Session.waiting, after]
  exact contents

theorem ResetBy.bytes (reset : ResetBy overwritten ts e s s') :
    s'.bytes = s.sent ++ wire (resetRecords s.ctx ts e overwritten) := by
  rw [Session.bytes, reset.waiting, Session.sent, reset.writes, Session.sent]

/-- The prologue of a full ring either gives the ring up, or drops the event, or never
comes to an end. -/
theorem call_overwrite (placed : s.ctx.Placed) (policy : s.ctx.overrunPolicy = .overwrite)
    (event : c.event = some e) (active : isActive s.ctx e.eventId = true) (full : isFull s.ctx ts e c.extraBytes)
    (modest : Resets s.ctx ts e c.extraBytes → (e.record 0).payload.length < 2 ^ 30) (done : s.call ts c = some s') :
    (¬ Resets s.ctx ts e c.extraBytes ∧ Dropped ts e s s') ∨
      ∃ overwritten, ringRecordCount s.ctx = some overwritten ∧ Resets s.ctx ts e c.extraBytes ∧
        ResetBy overwritten ts e s s' := by
  obtain ⟨run, writes, attempts⟩ := call_eq done
  have after := run_event event run
  rw [attempt_active event active] at attempts
  cases count : ringRecordCount s.ctx with
  | none =>
    have less : ringAvailable s.ctx < needed s.ctx ts e.eventId c.extraBytes := full
    have hangs : emitStart s.ctx ts e.eventId c.extraBytes = none := by
      rw [emitStart, active, if_pos less, policy]
      change overwriteStart s.ctx ts e.eventId c.extraBytes = none
      rw [overwriteStart, count, Option.map_none]
    rw [hangs] at after
    cases after
  | some overwritten =>
    by_cases fits : resetFits s.ctx ts e c.extraBytes overwritten
    · right
      have resets : Resets s.ctx ts e c.extraBytes := ⟨overwritten, count, fits⟩
      obtain ⟨start, grown, started, grows, params⟩ :=
        emitStart_reset placed policy active full count fits (extraBytes_eq event) (modest resets)
      rw [started, Option.map_some, onStarted, params] at after
      rw [started] at attempts
      exact ⟨overwritten, rfl, resets, writes, attempts, grown, grows, (Option.some.inj after).symm⟩
    · left
      have started := emitStart_unfit policy active full count fits
      rw [started] at after attempts
      constructor
      · rintro ⟨other, counted, fitting⟩
        rw [count] at counted
        cases counted
        exact fits fitting
      · exact ⟨writes, attempts, (Option.some.inj after).symm⟩

theorem timed_extends {fresh : List RawRecord} {lost : Nat}
    (before : (timedEvents 0 rs).Sublist (s.attempts.map Attempt.timed))
    (adds : Adds fresh ts e (timeAfter 0 rs) lost) (attempts : s'.attempts = s.attempts ++ [⟨ts, e, true⟩]) :
    (timedEvents 0 (rs ++ fresh)).Sublist (s'.attempts.map Attempt.timed) := by
  rw [timedEvents_append, adds.timed, attempts, List.map_append]
  exact before.append (List.Sublist.refl _)

theorem isEnabled_of_active (active : isActive s.ctx e.eventId = true) : s.ctx.isEnabled = true := by
  simp only [isActive, Bool.and_eq_true] at active
  exact active.1.2

section

variable (accounting : Accounting s)
include accounting

theorem accounting_quiet (quiet : Quiet s s') : Accounting s' := by
  obtain ⟨rs, bytes, readable, timed, counted, time⟩ := accounting.stream
  constructor
  · rw [quiet.same]
    exact ⟨accounting.placed.read, accounting.placed.write⟩
  · rw [quiet.same]
    exact accounting.policy
  · rw [quiet.bytes, quiet.attempts, quiet.same]
    exact ⟨rs, bytes, readable, timed, counted, time⟩

theorem accounting_moved (moved : Moved s s') : Accounting s' := by
  obtain ⟨rs, bytes, readable, timed, counted, time⟩ := accounting.stream
  constructor
  · exact moved.placed
  · rw [moved.same]
    exact accounting.policy
  · rw [moved.bytes, moved.attempts, moved.same]
    exact ⟨rs, bytes, readable, timed, counted, time⟩

theorem accounting_dropped (counts : s.ctx.droppedCount.toNat + 1 < 2 ^ 32)
    (dropped : Dropped ts e s s') : Accounting s' := by
  obtain ⟨rs, bytes, readable, timed, counted, time⟩ := accounting.stream
  have one : (1 : UInt32).toNat = 1 := rfl
  constructor
  · rw [dropped.ctx]
    exact ⟨accounting.placed.read, accounting.placed.write⟩
  · rw [dropped.ctx]
    exact accounting.policy
  · refine ⟨rs, ?_, readable, ?_, ?_, ?_⟩
    · rw [dropped.bytes]
      exact bytes
    · rw [dropped.attempts, List.map_append]
      exact timed.trans (List.sublist_append_left _ _)
    · rw [dropped.attempts, dropped.ctx, dropEvent, List.length_append, UInt32.toNat_add, one]
      simp only [List.length_singleton]
      omega
    · rw [dropped.ctx]
      exact time

theorem accounting_recorded (active : isActive s.ctx e.eventId = true)
    (own : e.eventId ≠ evGap ∧ e.eventId ≠ evBoot) (words : ∀ v ∈ e.params, v < 2 ^ 32)
    (short : Short (s.ctx.fresh ts e)) (recorded : Recorded ts e s s') : Accounting s' := by
  obtain ⟨rs, bytes, readable, timed, counted, time⟩ := accounting.stream
  obtain ⟨grown, grows, after⟩ := recorded.ctx
  have last := time (isEnabled_of_active active)
  have step : word32 (timeAfter 0 rs + (ts - s.ctx.lastTimestamp).toNat) = ts.toNat := by
    rw [last]
    exact timestamp_step _ _
  have adds : Adds (s.ctx.fresh ts e) ts e (timeAfter 0 rs)
      (if s.ctx.isGapPending then s.ctx.droppedCount.toNat else 0) := by
    rw [Context.fresh]
    split
    · exact adds_gap own step
    · exact adds_event own step
  constructor
  · rw [after]
    exact ⟨grows.placed.read, grows.placed.write⟩
  · rw [after, Context.afterEvent, grows.same]
    exact accounting.policy
  · refine ⟨rs ++ s.ctx.fresh ts e, ?_, ?_, timed_extends timed adds recorded.attempts, ?_, ?_⟩
    · rw [recorded.bytes, bytes, wire_append]
    · intro r mem
      rcases List.mem_append.mp mem with earlier | new
      · exact readable r earlier
      · exact readable_fresh words short r new
    · have zero : (0 : UInt32).toNat = 0 := rfl
      have events := adds.events
      have told := adds.told
      rw [eventCount_append, toldTotal_append, recorded.attempts, List.length_append, after, Context.afterEvent]
      simp only [List.length_singleton]
      by_cases pending : s.ctx.isGapPending
      · rw [if_pos pending] at told ⊢
        omega
      · rw [if_neg pending] at told ⊢
        omega
    · intro _
      rw [timeAfter_append, adds.time, after]
      rfl

end

theorem waiting_of_boundary (bytes : s.bytes = wire rs) (readable : ∀ r ∈ rs, r.Readable) (boundary : OnBoundary s) :
    ∃ first, rs = first ++ s.waitingRecords ∧ s.sent = wire first ∧ s.waiting = wire s.waitingRecords := by
  obtain ⟨first, first_readable, sent⟩ := boundary
  rw [Session.bytes, sent] at bytes
  obtain ⟨all, waiting⟩ := wire_split first_readable readable bytes
  exact ⟨first, all, sent, waiting⟩

theorem readable_reset (words : ∀ v ∈ e.params, v < 2 ^ 32) (short : (e.record 0).payload.length < 2 ^ 28) :
    ∀ r ∈ resetRecords s.ctx ts e overwritten, r.Readable := by
  intro r mem
  simp only [resetRecords, List.mem_cons, List.not_mem_nil, or_false] at mem
  rcases mem with rfl | rfl | rfl
  · exact boot_readable ts s.ctx.timestampHz
  · refine ⟨UInt32.toNat_lt _, UInt32.toNat_lt _, ?_, ?_⟩
    · intro v mem
      rw [List.mem_singleton.mp mem]
      exact UInt32.toNat_lt _
    · have dropped := leb128Size_word (s.ctx.droppedCount + overwritten)
      have zero := leb128Size_word 0
      rw [length_gapRecord]
      omega
  · exact ⟨UInt32.toNat_lt _, UInt32.toNat_lt _, words, short⟩

theorem accounting_reset (accounting : Accounting s)
    (own : e.eventId ≠ evGap ∧ e.eventId ≠ evBoot) (words : ∀ v ∈ e.params, v < 2 ^ 32)
    (careful : ResetCareful taken s e) (count : ringRecordCount s.ctx = some overwritten)
    (reset : ResetBy overwritten ts e s s') :
    overwritten.toNat = s.waitingRecords.length ∧ Accounting s' := by
  obtain ⟨rs, bytes, readable, timed, counted, time⟩ := accounting.stream
  obtain ⟨first, rfl, sent, waiting⟩ := waiting_of_boundary bytes readable careful.boundary
  have first_readable : ∀ r ∈ first, r.Readable := fun r mem => readable r (List.mem_append_left _ mem)
  have rest_readable : ∀ r ∈ s.waitingRecords, r.Readable := fun r mem => readable r (List.mem_append_right _ mem)
  have no_wrap := careful.counter
  have overwritten_eq : overwritten.toNat = s.waitingRecords.length := by
    rw [ringRecordCount_wire accounting.placed rest_readable waiting] at count
    rw [← Option.some.inj count, UInt32.toNat_ofNat']
    exact Nat.mod_eq_of_lt (by omega)
  refine ⟨overwritten_eq, ?_⟩
  obtain ⟨grown, grows, after⟩ := reset.ctx
  have adds : Adds (resetRecords s.ctx ts e overwritten) ts e (timeAfter 0 first)
      (s.ctx.droppedCount + overwritten).toNat := adds_reset own _
  constructor
  · rw [after]
    exact ⟨grows.placed.read, grows.placed.write⟩
  · rw [after, grows.same]
    exact accounting.policy
  · refine ⟨first ++ resetRecords s.ctx ts e overwritten, ?_, ?_, ?_, ?_, ?_⟩
    · rw [reset.bytes, sent, wire_append]
    · intro r mem
      rcases List.mem_append.mp mem with earlier | new
      · exact first_readable r earlier
      · exact readable_reset words careful.short r new
    · have earlier : (timedEvents 0 first).Sublist (s.attempts.map Attempt.timed) := by
        rw [timedEvents_append] at timed
        exact (List.sublist_append_left _ _).trans timed
      exact timed_extends earlier adds reset.attempts
    · have total : (s.ctx.droppedCount + overwritten).toNat = s.ctx.droppedCount.toNat + s.waitingRecords.length := by
        rw [UInt32.toNat_add, overwritten_eq]
        exact Nat.mod_eq_of_lt no_wrap
      have zero : (0 : UInt32).toNat = 0 := rfl
      have events := adds.events
      have told := adds.told
      have balanced : s.waitingRecords.length = _ := careful.balanced
      rw [eventCount_append, toldTotal_append] at counted
      rw [eventCount_append, toldTotal_append, reset.attempts, List.length_append, after]
      simp only [List.length_singleton]
      omega
    · intro _
      rw [timeAfter_append, adds.time, after]

theorem accounting_call (accounting : Accounting s) (careful : OverwriteCareful taken s ts c)
    (done : s.call ts c = some s') : Accounting s' ∧ (taken = true → Follows s s') := by
  cases event : c.event with
  | none =>
    have quiet := call_quiet event done
    exact ⟨accounting_quiet accounting quiet, fun _ => quiet.follows⟩
  | some e =>
    cases active : isActive s.ctx e.eventId with
    | false =>
      have quiet := call_inactive event active done
      exact ⟨accounting_quiet accounting quiet, fun _ => quiet.follows⟩
    | true =>
      obtain ⟨own, roomy, resetting, counting⟩ := careful e event active
      by_cases full : isFull s.ctx ts e c.extraBytes
      · have modest (resets : Resets s.ctx ts e c.extraBytes) : (e.record 0).payload.length < 2 ^ 30 := by
          have short := (resetting full resets).short
          omega
        rcases call_overwrite accounting.placed accounting.policy event active full modest done with
          ⟨stays, dropped⟩ | ⟨overwritten, count, resets, reset⟩
        · exact ⟨accounting_dropped accounting (counting full stays) dropped, fun _ => dropped.follows⟩
        · have limits := resetting full resets
          have payload := length_record e 0
          have short := limits.short
          have words := event_words event (by omega)
          refine ⟨(accounting_reset accounting own words limits count reset).2, fun inside => ?_⟩
          rw [limits.outside] at inside
          cases inside
      · have limits := roomy full
        have modest : (e.record (s.ctx.eventDelta ts)).payload.length < 2 ^ 30 := by omega
        have recorded := call_room accounting.placed event active full modest done
        have words := event_words event (small_of_fresh (fresh_below (by omega) modest))
        have short : Short (s.ctx.fresh ts e) := fresh_below (by omega) limits
        exact ⟨accounting_recorded accounting active own words short recorded, fun _ => recorded.follows⟩

theorem accounting_kept : Kept OverwriteCareful Accounting where
  placed _ accounting := accounting.placed
  call _ _ _ _ _ accounting careful done := accounting_call accounting careful done
  moved _ _ accounting moved := accounting_moved accounting moved

theorem accounting_start {ctx : Context} (policy : config.overrunPolicy = .overwrite)
    (initialised : init config bootTs = .ok ctx) : Accounting (.start ctx) := by
  have grows := init_grows initialised
  have dropped : ctx.droppedCount = 0 := by
    rw [grows.same]
    rfl
  constructor
  · exact grows.placed
  · change ctx.overrunPolicy = .overwrite
    rw [grows.same]
    exact policy
  · refine ⟨_, start_bytes initialised, boots_readable, ?_, ?_, ?_⟩
    · rw [boots]
      split <;> exact List.Sublist.refl _
    · change 0 = _ + ctx.droppedCount.toNat
      rw [dropped, boots]
      split <;> rfl
    · intro enabled
      have on : config.isEnabled = true := by
        change ctx.isEnabled = true at enabled
        rw [grows.same] at enabled
        exact enabled
      change timeAfter 0 (records bootTs (boots config bootTs)) = ctx.lastTimestamp.toNat
      rw [grows.same, boots, if_pos on]
      rfl

theorem accounted_of_accounting (accounting : Accounting s) : ∃ rs, Accounted s rs := by
  obtain ⟨rs, bytes, readable, timed, counted, _⟩ := accounting.stream
  refine ⟨rs, ?_, timed, counted⟩
  rw [bytes, recordsFromStream_wire readable]

/-- Behind what was sent, the host sees BOOT with the time of the call, GAP and the event. -/
def ShowsReset (ts : UInt32) (e : Event) (s s' : Session) : Prop :=
  ∃ first lost, recordsFromStream s.sent = (first, .cleanEof) ∧
    recordsFromStream s'.bytes =
      (first ++ [bootRecord ts s.ctx.timestampHz, gapRecord 0 lost, e.record 0], .cleanEof)

theorem reset_shown (accounting : Accounting s) (careful : OverwriteCareful taken s ts c)
    (event : c.event = some e) (active : isActive s.ctx e.eventId = true)
    (full : isFull s.ctx ts e c.extraBytes) (resets : Resets s.ctx ts e c.extraBytes)
    (done : s.call ts c = some s') : ShowsReset ts e s s' := by
  obtain ⟨own, _, resetting, _⟩ := careful e event active
  have limits := resetting full resets
  have short := limits.short
  have modest (_ : Resets s.ctx ts e c.extraBytes) : (e.record 0).payload.length < 2 ^ 30 := by omega
  obtain ⟨first, first_readable, sent⟩ := limits.boundary
  have payload := length_record e 0
  have words := event_words event (by omega)
  rcases call_overwrite accounting.placed accounting.policy event active full modest done with
    ⟨stays, _⟩ | ⟨overwritten, count, _, reset⟩
  · exact absurd resets stays
  · refine ⟨first, s.ctx.droppedCount + overwritten, ?_, ?_⟩
    · rw [sent, recordsFromStream_wire first_readable]
    · rw [reset.bytes, sent, recordsFromStream_append first_readable,
        recordsFromStream_wire (readable_reset words short)]
      rfl

/-- Under the OVERWRITE policy, at every moment of a careful run, the stream parses, every
call is accounted for, and a call that makes the ring give way shows the host BOOT, GAP
and its event. -/
theorem overwrite_stream_accounted (config : Config) (bootTs : UInt32) (policy : config.overrunPolicy = .overwrite)
    {ctx : Context} (initialised : init config bootTs = .ok ctx) {steps : List Step} {s : Session}
    (run : Run (fun s step => step.Meets OverwriteCareful s) (.start ctx) steps s) :
    (∃ rs, Accounted s rs) ∧
      ∀ ts c e s', OverwriteCareful false s ts c → c.event = some e → isActive s.ctx e.eventId = true →
        isFull s.ctx ts e c.extraBytes → Resets s.ctx ts e c.extraBytes → s.call ts c = some s' →
        ShowsReset ts e s s' := by
  have accounting := run_keeps accounting_kept (accounting_start policy initialised) run
  refine ⟨accounted_of_accounting accounting, ?_⟩
  intro ts c e s' careful event active full resets done
  exact reset_shown accounting careful event active full resets done

def overwriteConfig : Config := { smallConfig with overrunPolicy := .overwrite }

def overwriteContext : Context := ringPutBoot (initContext overwriteConfig 0) 0

def threeCall : Call := .emit3 0x20 1 2 3

theorem overwrite_stream_accounted_sample :
    ∃ s, Run (fun s step => step.Meets OverwriteCareful s) (.start overwriteContext)
        [.flush [⟨[], fun _ => some 4, []⟩], .call 1 threeCall, .call 2 threeCall, .call 3 threeCall] s ∧
      ∃ rs, Accounted s rs := by
  have run : ∃ s, Run (fun s step => step.Meets OverwriteCareful s) (.start overwriteContext)
      ([] ++ [.flush [⟨[], fun _ => some 4, []⟩]] ++ [.call 1 threeCall] ++ [.call 2 threeCall] ++
        [.call 3 threeCall]) s := by
    refine ⟨_, .snoc (.snoc (.snoc (.snoc .nil ?_ rfl) ?_ rfl) ?_ rfl) ?_ rfl⟩
    · intro _
      exact ⟨trivial, fun _ _ => trivial, fun _ _ => trivial⟩
    · intro e event active
      cases event
      exact ⟨by decide, fun _ => by decide, fun full => absurd full (by decide), fun full => absurd full (by decide)⟩
    · intro e event active
      cases event
      exact ⟨by decide, fun _ => by decide, fun full => absurd full (by decide), fun full => absurd full (by decide)⟩
    · intro e event active
      cases event
      have readable : ∀ r ∈ [bootRecord 0 1], r.Readable := by
        intro r mem
        rw [List.mem_singleton.mp mem]
        exact boot_readable 0 1
      refine ⟨by decide, fun room => absurd (by decide) room, fun _ _ => ?_, fun _ stays => ?_⟩
      · exact ⟨rfl, ⟨[bootRecord 0 1], readable, by decide⟩, (by decide : _ = _), by decide, by decide⟩
      · exact absurd ⟨2, by decide, (by decide : _ < _)⟩ stays
  obtain ⟨s, run⟩ := run
  exact ⟨s, run, (overwrite_stream_accounted overwriteConfig 0 rfl rfl run).1⟩

/-- Two events that do not fit together: BOOT is counted as a lost event. -/
theorem overwrite_stream_diverges :
    ¬ ∀ steps s, Run (fun _ _ => True) (.start overwriteContext) steps s → ∃ rs, Accounted s rs := by
  intro claimed
  have run : ∃ s, Run (fun _ _ => True) (.start overwriteContext)
      ([] ++ [.call 1 threeCall] ++ [.call 2 threeCall]) s ∧
      recordsFromStream s.bytes = ([bootRecord 2 1, gapRecord 0 2, ⟨0x20, 0, [1, 2, 3]⟩], .cleanEof) ∧
      s.attempts.length = 2 ∧ s.ctx.droppedCount = 0 :=
    ⟨_, .snoc (.snoc .nil trivial rfl) trivial rfl, by decide, by decide, by decide⟩
  obtain ⟨s, run, read, length, dropped⟩ := run
  obtain ⟨rs, accounted⟩ := claimed _ s run
  have same := accounted.read
  have counted := accounted.counted
  rw [read] at same
  have records : rs = [bootRecord 2 1, gapRecord 0 2, ⟨0x20, 0, [1, 2, 3]⟩] := (congrArg Prod.fst same).symm
  rw [length, dropped, records] at counted
  exact absurd counted (by decide)

end XSDK.Trace
