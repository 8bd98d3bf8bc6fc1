import XSDK.Trace.Outcome

/-! The DROP policy: what was sent and what waits is the story of the calls, record by
record, as long as no record reaches the length the reader turns down and no counter of
drops wraps. -/
namespace XSDK.Trace

open Library

variable {config : Config} {bootTs ts : UInt32} {s s' : Session} {c : Call} {e : Event}

def boots (config : Config) (bootTs : UInt32) : List Item :=
  if config.isEnabled then [.boot bootTs config.timestampHz] else []

def hostStory (config : Config) (bootTs : UInt32) (attempts : List Attempt) : List Item :=
  boots config bootTs ++ story 0 attempts

structure Exact (config : Config) (bootTs : UInt32) (s : Session) : Prop where
  read : recordsFromStream s.bytes = (records bootTs (hostStory config bootTs s.attempts), .cleanEof)
  unique : ∀ cut, Prefixed.stream cut = s.bytes →
    cut = (records bootTs (hostStory config bootTs s.attempts)).map RawRecord.payload
  counted : s.attempts.length =
    s.attempts.countP (·.isRecorded) + gapTotal (story 0 s.attempts) + s.ctx.droppedCount.toNat
  times : timestamps 0 (records bootTs (hostStory config bootTs s.attempts)) =
    (hostStory config bootTs s.attempts).map (·.ts.toNat)

/-- An event that is recorded stays below the reader's limit, and one that is dropped
finds the counter of drops below its last value. -/
def Careful : CallCondition := fun _ s ts c =>
  ∀ e, c.event = some e → isActive s.ctx e.eventId = true →
    if isFull s.ctx ts e c.extraBytes then s.ctx.droppedCount.toNat + 1 < 2 ^ 32
    else (e.record (s.ctx.eventDelta ts)).payload.length < 2 ^ 28

structure Telling (config : Config) (bootTs : UInt32) (s : Session) : Prop where
  placed : s.ctx.Placed
  policy : s.ctx.overrunPolicy = .drop
  enabled : s.ctx.isEnabled = config.isEnabled
  idle : config.isEnabled = false → s.attempts = []
  bytes : s.bytes = wire (records bootTs (hostStory config bootTs s.attempts))
  readable : ∀ r ∈ records bootTs (hostStory config bootTs s.attempts), r.Readable
  dropped : s.ctx.droppedCount.toNat = pendingDrops 0 s.attempts
  pending : s.ctx.isGapPending = decide (pendingDrops 0 s.attempts ≠ 0)
  last : s.ctx.lastTimestamp = lastTs bootTs (hostStory config bootTs s.attempts)

theorem hostStory_recorded :
    hostStory config bootTs (s.attempts ++ [⟨ts, e, true⟩]) =
      hostStory config bootTs s.attempts ++ told (pendingDrops 0 s.attempts) ts e := by
  rw [hostStory, story_recorded rfl, ← List.append_assoc, hostStory]

theorem hostStory_dropped :
    hostStory config bootTs (s.attempts ++ [⟨ts, e, false⟩]) = hostStory config bootTs s.attempts := by
  rw [hostStory, story_dropped rfl, hostStory]

theorem fresh_told (telling : Telling config bootTs s) :
    s.ctx.fresh ts e = records s.ctx.lastTimestamp (told (pendingDrops 0 s.attempts) ts e) := by
  have count : UInt32.ofNat (pendingDrops 0 s.attempts) = s.ctx.droppedCount := by
    rw [← telling.dropped, UInt32.ofNat_toNat]
  rw [Context.fresh, told, telling.pending]
  by_cases none_pending : pendingDrops 0 s.attempts = 0
  · rw [if_pos none_pending, if_neg (by simp [none_pending])]
    rfl
  · rw [if_neg none_pending, if_pos (by simp [none_pending])]
    simp only [records, Item.record, Item.ts, count, UInt32.sub_self]

theorem lastTs_told (pending : Nat) (last : UInt32) : lastTs last (told pending ts e) = ts := by
  rw [told]
  split <;> rfl

def Short (records : List RawRecord) : Prop := ∀ r ∈ records, r.payload.length < 2 ^ 28

variable {ctx : Context}

theorem readable_fresh (words : ∀ v ∈ e.params, v < 2 ^ 32) (short : Short (ctx.fresh ts e)) :
    ∀ r ∈ ctx.fresh ts e, r.Readable := by
  intro r mem
  have limit := short r mem
  rw [Context.fresh] at mem
  split at mem
  · rcases List.mem_pair.mp mem with rfl | rfl
    · refine ⟨UInt32.toNat_lt _, UInt32.toNat_lt _, ?_, limit⟩
      simpa [gapRecord] using UInt32.toNat_lt _
    · exact ⟨UInt32.toNat_lt _, UInt32.toNat_lt _, words, limit⟩
  · rw [List.mem_singleton] at mem
    subst mem
    exact ⟨UInt32.toNat_lt _, UInt32.toNat_lt _, words, limit⟩

section

variable (telling : Telling config bootTs s)
include telling

theorem telling_quiet (quiet : Quiet s s') : Telling config bootTs s' := by
  constructor
  · rw [quiet.same]
    exact ⟨telling.placed.read, telling.placed.write⟩
  · rw [quiet.same]
    exact telling.policy
  · rw [quiet.same]
    exact telling.enabled
  · rw [quiet.attempts]
    exact telling.idle
  · rw [quiet.bytes, quiet.attempts]
    exact telling.bytes
  · rw [quiet.attempts]
    exact telling.readable
  · rw [quiet.same, quiet.attempts]
    exact telling.dropped
  · rw [quiet.same, quiet.attempts]
    exact telling.pending
  · rw [quiet.same, quiet.attempts]
    exact telling.last

theorem telling_dropped (active : isActive s.ctx e.eventId = true)
    (counts : s.ctx.droppedCount.toNat + 1 < 2 ^ 32) (dropped : Dropped ts e s s') : Telling config bootTs s' := by
  have more : pendingDrops 0 s'.attempts = pendingDrops 0 s.attempts + 1 := by
    rw [dropped.attempts, pendingDrops_snoc]
    rfl
  have same_story : hostStory config bootTs s'.attempts = hostStory config bootTs s.attempts := by
    rw [dropped.attempts, hostStory_dropped]
  constructor
  · rw [dropped.ctx]
    exact ⟨telling.placed.read, telling.placed.write⟩
  · rw [dropped.ctx]
    exact telling.policy
  · rw [dropped.ctx]
    exact telling.enabled
  · intro off
    rw [← telling.enabled] at off
    rw [isActive, off, Bool.and_false, Bool.false_and] at active
    cases active
  · rw [dropped.bytes, same_story]
    exact telling.bytes
  · rw [same_story]
    exact telling.readable
  · have counted := telling.dropped
    have one : (1 : UInt32).toNat = 1 := rfl
    rw [dropped.ctx, more, dropEvent, UInt32.toNat_add, one]
    omega
  · rw [dropped.ctx, more]
    simp [dropEvent]
  · rw [dropped.ctx, same_story]
    exact telling.last

theorem telling_recorded (active : isActive s.ctx e.eventId = true)
    (words : ∀ v ∈ e.params, v < 2 ^ 32) (short : Short (s.ctx.fresh ts e)) (recorded : Recorded ts e s s') :
    Telling config bootTs s' := by
  obtain ⟨grown, grows, after⟩ := recorded.ctx
  have none_pending : pendingDrops 0 s'.attempts = 0 := by
    rw [recorded.attempts, pendingDrops_snoc]
    rfl
  have longer : hostStory config bootTs s'.attempts =
      hostStory config bootTs s.attempts ++ told (pendingDrops 0 s.attempts) ts e := by
    rw [recorded.attempts, hostStory_recorded]
  have appended : records bootTs (hostStory config bootTs s'.attempts) =
      records bootTs (hostStory config bootTs s.attempts) ++ s.ctx.fresh ts e := by
    rw [longer, records_append, ← telling.last, fresh_told telling]
  constructor
  · rw [after]
    exact ⟨grows.placed.read, grows.placed.write⟩
  · rw [after, Context.afterEvent, grows.same]
    exact telling.policy
  · rw [after, Context.afterEvent, grows.same]
    exact telling.enabled
  · intro off
    rw [← telling.enabled] at off
    rw [isActive, off, Bool.and_false, Bool.false_and] at active
    cases active
  · rw [recorded.bytes, appended, wire_append, telling.bytes]
  · intro r mem
    rw [appended] at mem
    rcases List.mem_append.mp mem with earlier | new
    · exact telling.readable r earlier
    · exact readable_fresh words short r new
  · -- Without a pending GAP the counter was zero before.
    have counted := telling.dropped
    have gap := telling.pending
    rw [after, none_pending, Context.afterEvent]
    simp only
    split
    · rfl
    · next not_pending =>
      rw [gap] at not_pending
      simp only [decide_eq_true_eq, Decidable.not_not] at not_pending
      omega
  · rw [after, none_pending]
    rfl
  · rw [after, longer, lastTs_append, lastTs_told]
    rfl

theorem telling_moved (moved : Moved s s') : Telling config bootTs s' := by
  constructor
  · exact moved.placed
  · rw [moved.same]
    exact telling.policy
  · rw [moved.same]
    exact telling.enabled
  · rw [moved.attempts]
    exact telling.idle
  · rw [moved.bytes, moved.attempts]
    exact telling.bytes
  · rw [moved.attempts]
    exact telling.readable
  · rw [moved.same, moved.attempts]
    exact telling.dropped
  · rw [moved.same, moved.attempts]
    exact telling.pending
  · rw [moved.same, moved.attempts]
    exact telling.last

theorem telling_call {taken : Bool} (careful : Careful taken s ts c)
    (done : s.call ts c = some s') : Telling config bootTs s' ∧ Follows s s' := by
  cases event : c.event with
  | none =>
    have quiet := call_quiet event done
    exact ⟨telling_quiet telling quiet, quiet.follows⟩
  | some e =>
    cases active : isActive s.ctx e.eventId with
    | false =>
      have quiet := call_inactive event active done
      exact ⟨telling_quiet telling quiet, quiet.follows⟩
    | true =>
      have limits := careful e event active
      by_cases full : isFull s.ctx ts e c.extraBytes
      · rw [if_pos full] at limits
        have dropped := call_full telling.policy event active full done
        exact ⟨telling_dropped telling active limits dropped, dropped.follows⟩
      · rw [if_neg full] at limits
        have modest : (e.record (s.ctx.eventDelta ts)).payload.length < 2 ^ 30 := by omega
        have recorded := call_room telling.placed event active full modest done
        have words := event_words event (small_of_fresh (fresh_below (by omega) modest))
        exact ⟨telling_recorded telling active words (fresh_below (by omega) limits) recorded, recorded.follows⟩

end

theorem telling_kept : Kept Careful (Telling config bootTs) where
  placed _ telling := telling.placed
  call _ _ _ _ _ telling careful done := by
    obtain ⟨telling', follows⟩ := telling_call telling careful done
    exact ⟨telling', fun _ => follows⟩
  moved _ _ telling moved := telling_moved telling moved

theorem init_eq (initialised : init config bootTs = .ok ctx) :
    16 ≤ config.capacityBytes ∧
      ctx = if config.isEnabled then ringPutBoot (initContext config bootTs) bootTs
        else initContext config bootTs := by
  rw [init] at initialised
  split at initialised
  · cases initialised
  · next large =>
    have capacity : 16 ≤ config.capacityBytes := Nat.le_of_not_lt large
    refine ⟨capacity, ?_⟩
    split at initialised
    · cases initialised
    · simp only at initialised
      split at initialised
      · next off =>
        simp only [initContext, Bool.not_eq_true'] at off
        cases initialised
        rw [off]
        rfl
      · next on =>
        simp only [initContext, Bool.not_eq_true', Bool.not_eq_false] at on
        have ts_size := leb128Size_word bootTs
        have hz_size := leb128Size_word config.timestampHz
        have payload_size : leb128Size (1 + leb128Size bootTs.toNat + leb128Size config.timestampHz.toNat) = 1 :=
          Leb128.size_of_lt (by omega)
        have boot : recordSize (1 + leb128Size bootTs.toNat + leb128Size config.timestampHz.toNat) ≤ 12 := by
          rw [recordSize_eq (by omega), payload_size]
          omega
        have available : ringAvailable (initContext config bootTs) = config.capacityBytes - 1 := by
          simp [ringAvailable, initContext]
        rw [if_pos (by omega)] at initialised
        cases initialised
        rw [on]
        rfl

theorem initContext_contents : (initContext config bootTs).contents = [] := Ring.contents_self

theorem length_bootRecord (bootTs hz : UInt32) : (bootRecord bootTs hz).payload.length ≤ 11 := by
  have ts_size := leb128Size_word bootTs
  have hz_size := leb128Size_word hz
  have id_size : Leb128.size evBoot.toNat = 1 := rfl
  simp only [leb128Size] at ts_size hz_size
  simp only [bootRecord, RawRecord.payload, List.length_append, Leb128.length_encode, List.flatMap_cons,
    List.flatMap_nil, List.append_nil, id_size]
  omega

theorem boot_readable (bootTs hz : UInt32) : (bootRecord bootTs hz).Readable := by
  have length := length_bootRecord bootTs hz
  refine ⟨UInt32.toNat_lt _, UInt32.toNat_lt _, ?_, by omega⟩
  simpa [bootRecord] using UInt32.toNat_lt _

theorem length_boot (bootTs hz : UInt32) : (wire [bootRecord bootTs hz]).length ≤ 12 := by
  have length := length_bootRecord bootTs hz
  have prefix_size : leb128Size (bootRecord bootTs hz).payload.length = 1 := Leb128.size_of_lt (by omega)
  rw [length_wire_singleton, prefix_size]
  omega

theorem init_grows (initialised : init config bootTs = .ok ctx) :
    Grows (initContext config bootTs) (wire (records bootTs (boots config bootTs))) ctx := by
  obtain ⟨capacity, ctx_eq⟩ := init_eq initialised
  have empty : (initContext config bootTs).Placed := by
    constructor
    · change 0 < config.capacityBytes
      omega
    · change 0 < config.capacityBytes
      omega
  rw [boots]
  cases on : config.isEnabled with
  | false =>
    rw [on, if_neg (by decide)] at ctx_eq
    subst ctx_eq
    exact ⟨empty, (List.append_nil _).symm, rfl⟩
  | true =>
    have fits := length_boot bootTs config.timestampHz
    rw [on, if_pos rfl, ringPutBoot_eq] at ctx_eq
    rw [ctx_eq]
    apply ringPutAll_grows empty
    rw [initContext_contents]
    change 0 + (wire [bootRecord bootTs config.timestampHz]).length < config.capacityBytes
    omega

theorem start_bytes (initialised : init config bootTs = .ok ctx) :
    (Session.start ctx).bytes = wire (records bootTs (boots config bootTs)) := by
  have grows := init_grows initialised
  have contents := grows.contents
  rw [initContext_contents, List.nil_append] at contents
  exact contents

theorem boots_readable : ∀ r ∈ records bootTs (boots config bootTs), r.Readable := by
  intro r mem
  rw [boots] at mem
  split at mem
  · rw [List.mem_singleton.mp mem]
    exact boot_readable bootTs config.timestampHz
  · cases mem

theorem telling_start (policy : config.overrunPolicy = .drop)
    (initialised : init config bootTs = .ok ctx) : Telling config bootTs (.start ctx) := by
  have grows := init_grows initialised
  have nothing : hostStory config bootTs [] = boots config bootTs := List.append_nil _
  constructor
  · exact grows.placed
  · change ctx.overrunPolicy = .drop
    rw [grows.same]
    exact policy
  · change ctx.isEnabled = config.isEnabled
    rw [grows.same]
    rfl
  · exact fun _ => rfl
  · rw [start_bytes initialised, ← nothing]
    rfl
  · rw [Session.start, nothing]
    exact boots_readable
  · change ctx.droppedCount.toNat = 0
    rw [grows.same]
    rfl
  · change ctx.isGapPending = false
    rw [grows.same]
    rfl
  · change ctx.lastTimestamp = lastTs bootTs (hostStory config bootTs [])
    rw [grows.same, nothing, boots]
    split <;> rfl

theorem exact_of_telling (telling : Telling config bootTs s) : Exact config bootTs s := by
  constructor
  · rw [telling.bytes, recordsFromStream_wire telling.readable]
  · intro cut same
    rw [telling.bytes] at same
    exact Prefixed.stream_inj same
  · have counted := attempts_counted 0 s.attempts
    rw [telling.dropped]
    omega
  · cases on : config.isEnabled with
    | false =>
      have nothing : hostStory config bootTs s.attempts = [] := by
        rw [telling.idle on]
        simp [hostStory, boots, on, story]
      rw [nothing]
      rfl
    | true =>
      have first : hostStory config bootTs s.attempts =
          .boot bootTs config.timestampHz :: story 0 s.attempts := by simp [hostStory, boots, on]
      have anchor : word32 (0 + bootTs.toNat) = bootTs.toNat := by
        rw [Nat.zero_add]
        exact word32_of_lt bootTs.toNat_lt
      have later := timestamps_records bootTs (story_relative 0 s.attempts)
      rw [first, records, timestamps]
      simp only [Item.record, bootRecord, Item.ts, List.map_cons, anchor, later]

/-- Under the DROP policy the host reads, at every moment of a careful run, exactly the
BOOT record and the events that were recorded, with a GAP wherever some were dropped. -/
theorem drop_stream_exact (config : Config) (bootTs : UInt32) (policy : config.overrunPolicy = .drop)
    {ctx : Context} (initialised : init config bootTs = .ok ctx) {steps : List Step} {s : Session}
    (run : Run (fun s step => step.Meets Careful s) (.start ctx) steps s) : Exact config bootTs s :=
  exact_of_telling (run_keeps telling_kept (telling_start policy initialised) run)

def smallConfig : Config where
  buffer := fun _ => 0
  capacityBytes := 16
  timestampHz := 1
  overrunPolicy := .drop
  isEnabled := true
  hasTransport := true

def smallContext : Context := ringPutBoot (initContext smallConfig 0) 0

theorem drop_stream_exact_sample :
    ∃ s, Run (fun s step => step.Meets Careful s) (.start smallContext)
        [.call 10 (.emit1 0x20 7), .flush [⟨[], fun _ => some 3, []⟩]] s ∧ Exact smallConfig 0 s := by
  have run : ∃ s, Run (fun s step => step.Meets Careful s) (.start smallContext)
      ([] ++ [.call 10 (.emit1 0x20 7)] ++ [.flush [⟨[], fun _ => some 3, []⟩]]) s := by
    refine ⟨_, .snoc (.snoc .nil ?_ rfl) ?_ rfl⟩
    · intro e event active
      cases event
      decide
    · intro _
      exact ⟨trivial, fun _ _ => trivial, fun _ _ => trivial⟩
  obtain ⟨s, run⟩ := run
  exact ⟨s, run, drop_stream_exact smallConfig 0 rfl rfl run⟩

/-- An event that never fits in the small ring. -/
def wideEvent : Event := ⟨0x20, [0xFFFFFFFF, 0xFFFFFFFF, 0xFFFFFFFF]⟩

def wideCall : Call := .emit3 0x20 0xFFFFFFFF 0xFFFFFFFF 0xFFFFFFFF

theorem wide_full (placed : ctx.Placed) (capacity : ctx.capacityBytes = 16) (ts : UInt32) :
    isFull ctx ts wideEvent wideCall.extraBytes := by
  have available := ringAvailable_eq placed
  have delta := leb128Size_word (ts - ctx.lastTimestamp)
  have dropped := leb128Size_word ctx.droppedCount
  have extra : wideCall.extraBytes = 15 := by decide
  have id : leb128Size wideEvent.eventId.toNat = 1 := by decide
  have payload : eventPayload wideEvent.eventId (ts - ctx.lastTimestamp) wideCall.extraBytes =
      1 + leb128Size (ts - ctx.lastTimestamp).toNat + 15 := by
    rw [eventPayload, id, extra]
    exact word32_of_lt (by omega)
  have gap : gapSize ctx (ts - ctx.lastTimestamp) ≤ 16 := by
    rw [gapSize]
    split
    · have size : leb128Size (1 + leb128Size (ts - ctx.lastTimestamp).toNat + leb128Size ctx.droppedCount.toNat) = 1 :=
        Leb128.size_of_lt (by omega)
      rw [recordSize_eq (by omega), size]
      omega
    · omega
  have size : leb128Size (1 + leb128Size (ts - ctx.lastTimestamp).toNat + 15) = 1 := Leb128.size_of_lt (by omega)
  rw [isFull, needed, payload, recordSize_eq (by omega), size, word32_of_lt (by omega)]
  have pos := Leb128.size_pos (ts - ctx.lastTimestamp).toNat
  simp only [leb128Size] at pos ⊢
  omega

theorem wide_drops (n : Nat) :
    ∃ s, Run (fun _ _ => True) (.start smallContext) (List.replicate n (.call 0 wideCall)) s ∧
      s.attempts = List.replicate n ⟨0, wideEvent, false⟩ ∧ s.ctx.droppedCount = UInt32.ofNat n ∧
      s.ctx.Placed ∧ s.ctx.capacityBytes = 16 ∧ s.ctx.overrunPolicy = .drop ∧
      isActive s.ctx wideEvent.eventId = true := by
  induction n with
  | zero => exact ⟨_, .nil, rfl, rfl, ⟨by decide, by decide⟩, rfl, rfl, rfl⟩
  | succ n ih =>
    obtain ⟨s, run, attempts, dropped, placed, capacity, policy, active⟩ := ih
    have full := wide_full placed capacity 0
    have started := emitStart_drop policy active full
    have ran : s.step (.call 0 wideCall) =
        some { s with ctx := dropEvent s.ctx, attempts := s.attempts ++ [⟨0, wideEvent, false⟩] } := by
      have tried : attempt s.ctx 0 wideCall = some ⟨0, wideEvent, false⟩ := by
        rw [attempt_active rfl active, started]
        rfl
      have called : wideCall.run s.ctx 0 = some (dropEvent s.ctx) := by
        change (emitStart s.ctx 0 wideEvent.eventId wideCall.extraBytes).map _ = _
        rw [started]
        rfl
      rw [Session.step, Session.call, called, tried]
      rfl
    refine ⟨⟨dropEvent s.ctx, s.writes, s.attempts ++ [⟨0, wideEvent, false⟩]⟩, ?_, ?_, ?_, ⟨placed.read, placed.write⟩, capacity, policy, active⟩
    · rw [List.replicate_succ']
      exact run.snoc trivial ran
    · rw [List.replicate_succ', attempts]
    · change s.ctx.droppedCount + 1 = _
      rw [dropped, UInt32.ofNat_add]
      rfl

/-- A ring with room for a name of 2^28 characters. -/
def largeConfig : Config := { smallConfig with capacityBytes := 2 ^ 28 + 64 }

def largeContext : Context := ringPutBoot (initContext largeConfig 0) 0

def longName : List UInt8 := List.replicate (2 ^ 28) 0x41

def longCall : Call := .emitName 0x20 0 0 longName

def longEvent : Event := ⟨0x20, [0, 0, 2 ^ 28] ++ longName.map (·.toNat)⟩

theorem longName_printable : longName.all isPrintable = true := by
  rw [longName, List.all_replicate]
  rfl

theorem cString_longName : cString longName = longName := by
  rw [cString, longName, List.takeWhile_replicate]
  rfl

theorem longCall_event : longCall.event = some longEvent := by
  have length : longName.length = 2 ^ 28 := List.length_replicate
  rw [longCall, Call.event]
  simp only [cString_longName, longName_printable, length]
  rfl

theorem length_longEvent : longEvent.paramBytes.length = 2 ^ 28 + 7 := by
  have zero : Leb128.size 0 = 1 := rfl
  have prefix_size : Leb128.size (2 ^ 28) = 5 := by decide
  have parts : longEvent.paramBytes.length =
      Leb128.size 0 + (Leb128.size 0 + Leb128.size (2 ^ 28)) + longName.length := by
    simp only [Event.paramBytes, longEvent, List.flatMap_append, flatMap_printable longName_printable,
      List.flatMap_cons, List.flatMap_nil, List.append_nil, List.length_append, Leb128.length_encode]
  have length : longName.length = 2 ^ 28 := List.length_replicate
  omega

theorem largeContext_placed : largeContext.Placed := ⟨by decide, by decide⟩

theorem long_room : ¬ isFull largeContext 0 longEvent longCall.extraBytes := by
  have extra := extraBytes_eq longCall_event
  have available : ringAvailable largeContext = 2 ^ 28 + 59 := by decide
  have last : (0 : UInt32) - largeContext.lastTimestamp = 0 := by decide
  have gap : gapSize largeContext 0 = 0 := by decide
  have id : leb128Size longEvent.eventId.toNat = 1 := by decide
  have zero : leb128Size (0 : UInt32).toNat = 1 := by decide
  have payload : eventPayload longEvent.eventId 0 longCall.extraBytes = 2 ^ 28 + 9 := by
    have bytes : word32 (2 ^ 28 + 7) = 2 ^ 28 + 7 := by decide
    rw [eventPayload, extra, length_longEvent, bytes, id, zero]
    decide
  have size : leb128Size (2 ^ 28 + 9) = 5 := by decide
  rw [isFull, needed, last, gap, payload, recordSize_eq (by omega), size, word32_of_lt (by omega), available]
  omega

theorem long_unread :
    ∃ s, Run (fun _ _ => True) (.start largeContext) [.call 0 longCall] s ∧
    (recordsFromStream s.bytes).2 = .corrupt := by
  have extra := extraBytes_eq longCall_event
  have payload := length_record longEvent (largeContext.eventDelta 0)
  have id : leb128Size longEvent.eventId.toNat = 1 := by decide
  have size := leb128Size_word (largeContext.eventDelta 0)
  rw [length_longEvent, id] at payload
  have modest : (longEvent.record (largeContext.eventDelta 0)).payload.length < 2 ^ 30 := by omega
  have started := (emitStart_room largeContext_placed rfl long_room extra (fresh_below (by omega) modest)).1
  have short : longCall.nameLength < 2 ^ 32 := by
    rw [longCall, Call.nameLength, cString_longName, longName, List.length_replicate]
    decide
  obtain ⟨s, ran⟩ := call_returns (s := .start largeContext) longCall_event short started
  have active : isActive (Session.start largeContext).ctx longEvent.eventId = true := by decide
  have recorded : Recorded 0 longEvent (.start largeContext) s :=
    call_room (s := .start largeContext) largeContext_placed longCall_event active long_room modest ran
  refine ⟨s, .snoc .nil trivial ran, ?_⟩
  have boot : (Session.start largeContext).bytes = wire [bootRecord 0 1] := by decide
  have pending : largeContext.isGapPending = false := by decide
  have fresh : largeContext.fresh 0 longEvent = [longEvent.record (largeContext.eventDelta 0)] := by
    rw [Context.fresh, Context.eventDelta, pending]
    rfl
  have stopped := readOneRecord_long (r := longEvent.record (largeContext.eventDelta 0)) (by omega) []
  have read : recordsFromStream (wire [longEvent.record (largeContext.eventDelta 0)]) = ([], .corrupt) := by
    rw [wire_cons, wire_nil, recordsFromStream_stop stopped]
  have readable : ∀ r ∈ [bootRecord 0 1], r.Readable := by
    intro r mem
    rw [List.mem_singleton.mp mem]
    exact boot_readable 0 1
  rw [recorded.bytes, boot, recordsFromStream_append readable, Session.start, fresh, read]

theorem story_drops (n k : Nat) (a : Attempt) (dropped : a.isRecorded = false) :
    story k (List.replicate n a) = [] := by
  induction n generalizing k with
  | zero => rfl
  | succ n ih => rw [List.replicate_succ, story, dropped, if_neg (by decide), ih]

theorem wide_counted (n : Nat) {s : Session} (attempts : s.attempts = List.replicate n ⟨0, wideEvent, false⟩)
    (dropped : s.ctx.droppedCount = UInt32.ofNat n) (exact : Exact smallConfig 0 s) : n = n % 2 ^ 32 := by
  have counted := exact.counted
  have value : s.ctx.droppedCount.toNat = n % 2 ^ 32 := by rw [dropped, UInt32.toNat_ofNat']
  have none_recorded : s.attempts.countP (·.isRecorded) = 0 := by
    rw [attempts, List.countP_replicate]
    rfl
  have none_told : gapTotal (story 0 s.attempts) = 0 := by
    rw [attempts, story_drops _ _ _ rfl]
    rfl
  have length : s.attempts.length = n := by rw [attempts, List.length_replicate]
  omega

/-- Two kinds of runs: as many drops in a row as the counter has values, and a record whose
length takes five bytes. -/
theorem drop_stream_diverges :
    (¬ ∀ steps s, Run (fun _ _ => True) (.start smallContext) steps s → Exact smallConfig 0 s) ∧
      ¬ ∀ steps s, Run (fun _ _ => True) (.start largeContext) steps s → Exact largeConfig 0 s := by
  constructor
  · intro claimed
    obtain ⟨s, run, attempts, dropped, _⟩ := wide_drops (2 ^ 32)
    have counted := wide_counted (2 ^ 32) attempts dropped (claimed _ s run)
    exact absurd counted (by decide)
  · intro claimed
    obtain ⟨s, run, stopped⟩ := long_unread
    have read := (claimed _ s run).read
    rw [read] at stopped
    have clean : ReadError.cleanEof = .corrupt := stopped
    exact absurd clean (by decide)

end XSDK.Trace
