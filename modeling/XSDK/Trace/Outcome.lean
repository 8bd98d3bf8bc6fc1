import XSDK.Trace.Drain
import XSDK.Trace.Story

/-! The outcomes of a call in a session: nothing but the filter changes, the event is
recorded, or it finds no room. -/
namespace XSDK.Trace

open Library

variable {s s' : Session} {ts : UInt32} {c : Call} {e : Event}

/-- The delta of the event's own record: zero behind a GAP. -/
def Context.eventDelta (ctx : Context) (ts : UInt32) : UInt32 :=
  if ctx.isGapPending then 0 else ts - ctx.lastTimestamp

def isFull (ctx : Context) (ts : UInt32) (e : Event) (extraBytes : Nat) : Prop :=
  ringAvailable ctx < needed ctx ts e.eventId extraBytes

instance (ctx : Context) (ts : UInt32) (e : Event) (extraBytes : Nat) : Decidable (isFull ctx ts e extraBytes) :=
  inferInstanceAs (Decidable (_ < _))

theorem fresh_below {ctx : Context} {limit : Nat} (enough : 16 ≤ limit)
    (below : (e.record (ctx.eventDelta ts)).payload.length < limit) :
    ∀ r ∈ ctx.fresh ts e, r.payload.length < limit := by
  intro r mem
  by_cases pending : ctx.isGapPending
  · rw [Context.eventDelta, if_pos pending] at below
    rw [Context.fresh, if_pos pending] at mem
    rcases List.mem_pair.mp mem with rfl | rfl
    · have delta := leb128Size_word (ts - ctx.lastTimestamp)
      have dropped := leb128Size_word ctx.droppedCount
      rw [length_gapRecord]
      omega
    · exact below
  · rw [Context.eventDelta, if_neg pending] at below
    rw [Context.fresh, if_neg pending, List.mem_singleton] at mem
    rw [mem]
    exact below

structure Quiet (s s' : Session) : Prop where
  writes : s'.writes = s.writes
  attempts : s'.attempts = s.attempts
  same : s'.ctx = { s.ctx with enabledEventsMask := s'.ctx.enabledEventsMask }

structure Recorded (ts : UInt32) (e : Event) (s s' : Session) : Prop where
  writes : s'.writes = s.writes
  attempts : s'.attempts = s.attempts ++ [⟨ts, e, true⟩]
  ctx : ∃ grown, Grows s.ctx (wire (s.ctx.fresh ts e)) grown ∧ s'.ctx = s.ctx.afterEvent ts grown

/-- An event that is only counted. -/
structure Dropped (ts : UInt32) (e : Event) (s s' : Session) : Prop where
  writes : s'.writes = s.writes
  attempts : s'.attempts = s.attempts ++ [⟨ts, e, false⟩]
  ctx : s'.ctx = dropEvent s.ctx

theorem call_eq (done : s.call ts c = some s') :
    c.run s.ctx ts = some s'.ctx ∧ s'.writes = s.writes ∧
      s'.attempts = s.attempts ++ (attempt s.ctx ts c).toList := by
  rw [Session.call] at done
  obtain ⟨ctx, run, rfl⟩ := Option.map_eq_some_iff.mp done
  exact ⟨run, rfl, rfl⟩

theorem call_quiet (quiet : c.event = none) (done : s.call ts c = some s') : Quiet s s' := by
  obtain ⟨run, writes, attempts⟩ := call_eq done
  have none_attempted : attempt s.ctx ts c = none := by rw [attempt, quiet]
  rw [none_attempted, Option.toList_none, List.append_nil] at attempts
  exact ⟨writes, attempts, run_quiet quiet run⟩

theorem call_inactive (event : c.event = some e) (inactive : isActive s.ctx e.eventId = false)
    (done : s.call ts c = some s') : Quiet s s' := by
  obtain ⟨run, writes, attempts⟩ := call_eq done
  have none_attempted : attempt s.ctx ts c = none := by
    rw [attempt, event]
    simp only [inactive, Bool.false_eq_true, if_false]
  have unchanged := run_event event run
  rw [emitStart_inactive inactive] at unchanged
  have same : s.ctx = s'.ctx := Option.some.inj unchanged
  rw [none_attempted, Option.toList_none, List.append_nil] at attempts
  refine ⟨writes, attempts, ?_⟩
  rw [← same]

theorem attempt_active (event : c.event = some e) (active : isActive s.ctx e.eventId = true) :
    attempt s.ctx ts c = (emitStart s.ctx ts e.eventId c.extraBytes).map fun started => ⟨ts, e, started.1⟩ := by
  rw [attempt, event]
  simp only [active, if_true]

theorem call_room (placed : s.ctx.Placed) (event : c.event = some e) (active : isActive s.ctx e.eventId = true)
    (room : ¬ isFull s.ctx ts e c.extraBytes)
    (modest : (e.record (s.ctx.eventDelta ts)).payload.length < 2 ^ 30) (done : s.call ts c = some s') :
    Recorded ts e s s' := by
  obtain ⟨run, writes, attempts⟩ := call_eq done
  obtain ⟨started, grown, grows, params⟩ :=
    emitStart_room placed active room (extraBytes_eq event) (fresh_below (by omega) modest)
  have after := run_event event run
  rw [started, Option.map_some, onStarted, params] at after
  rw [attempt_active event active, started] at attempts
  exact ⟨writes, attempts, grown, grows, (Option.some.inj after).symm⟩

theorem call_full (policy : s.ctx.overrunPolicy = .drop) (event : c.event = some e)
    (active : isActive s.ctx e.eventId = true) (full : isFull s.ctx ts e c.extraBytes)
    (done : s.call ts c = some s') : Dropped ts e s s' := by
  obtain ⟨run, writes, attempts⟩ := call_eq done
  have after := run_event event run
  rw [emitStart_drop policy active full] at after
  rw [attempt_active event active, emitStart_drop policy active full] at attempts
  exact ⟨writes, attempts, (Option.some.inj after).symm⟩

theorem Quiet.waiting (quiet : Quiet s s') : s'.waiting = s.waiting := by
  rw [Session.waiting, Session.waiting, quiet.same]
  rfl

theorem Quiet.follows (quiet : Quiet s s') : Follows s s' := by
  constructor
  · rw [quiet.same]
  · rw [quiet.same]
  · exact quiet.writes
  · simp only [quiet.waiting, List.prefix_rfl]

theorem Dropped.waiting (dropped : Dropped ts e s s') : s'.waiting = s.waiting := by
  rw [Session.waiting, Session.waiting, dropped.ctx]
  rfl

theorem Dropped.follows (dropped : Dropped ts e s s') : Follows s s' := by
  constructor
  · rw [dropped.ctx]
    rfl
  · rw [dropped.ctx]
    rfl
  · exact dropped.writes
  · simp only [dropped.waiting, List.prefix_rfl]

theorem Recorded.waiting (recorded : Recorded ts e s s') : s'.waiting = s.waiting ++ wire (s.ctx.fresh ts e) := by
  obtain ⟨grown, grows, after⟩ := recorded.ctx
  rw [Session.waiting, after]
  exact grows.contents

theorem Recorded.follows (recorded : Recorded ts e s s') : Follows s s' := by
  obtain ⟨grown, grows, after⟩ := recorded.ctx
  constructor
  · rw [after]
    exact grows.readPos
  · rw [after]
    exact grows.capacityBytes
  · exact recorded.writes
  · rw [recorded.waiting]
    exact List.prefix_append _ _

theorem Quiet.bytes (quiet : Quiet s s') : s'.bytes = s.bytes := by
  rw [Session.bytes, Session.bytes, Session.sent, Session.sent, quiet.waiting, quiet.writes]

theorem Dropped.bytes (dropped : Dropped ts e s s') : s'.bytes = s.bytes := by
  rw [Session.bytes, Session.bytes, Session.sent, Session.sent, dropped.waiting, dropped.writes]

theorem Recorded.bytes (recorded : Recorded ts e s s') : s'.bytes = s.bytes ++ wire (s.ctx.fresh ts e) := by
  rw [Session.bytes, Session.bytes, Session.sent, Session.sent, recorded.waiting, recorded.writes, List.append_assoc]

theorem call_returns {started : Bool × Context} (event : c.event = some e) (short : c.nameLength < 2 ^ 32)
    (returns : emitStart s.ctx ts e.eventId c.extraBytes = some started) : ∃ s', s.call ts c = some s' := by
  have run : c.run s.ctx ts = _ := run_eq event short
  rw [returns] at run
  rw [Session.call, run]
  exact ⟨_, rfl⟩

theorem event_words (event : c.event = some e) (small : e.paramBytes.length < 2 ^ 30) :
    ∀ v ∈ e.params, v < 2 ^ 32 := by
  cases c with
  | emit0 eventId =>
    cases event
    simp
  | emit1 eventId a =>
    cases event
    simpa using a.toNat_lt
  | emit2 eventId a b =>
    cases event
    have ha := a.toNat_lt
    have hb := b.toNat_lt
    intro v mem
    rcases List.mem_pair.mp mem with rfl | rfl
    · exact ha
    · exact hb
  | emit3 eventId a b c =>
    cases event
    have ha := a.toNat_lt
    have hb := b.toNat_lt
    have hc := c.toNat_lt
    intro v mem
    simp only [List.mem_cons, List.not_mem_nil, or_false] at mem
    rcases mem with rfl | rfl | rfl
    · exact ha
    · exact hb
    · exact hc
  | emitName eventId objType objId name =>
    simp only [Call.event] at event
    split at event
    · cases event
      have type := objType.toNat_lt
      have id := objId.toNat_lt
      have length := length_flatMap_encode
        ([objType.toNat, objId.toNat, (cString name).length] ++ (cString name).map (·.toNat))
      simp only [Event.paramBytes] at small
      have short : (cString name).length < 2 ^ 30 := by
        simp only [List.length_append, List.length_map, List.length_cons] at length
        omega
      intro v mem
      simp only [List.mem_append, List.mem_cons, List.not_mem_nil, or_false, List.mem_map] at mem
      rcases mem with (rfl | rfl | rfl) | ⟨byte, _, rfl⟩
      · exact type
      · exact id
      · omega
      · have small := byte.toNat_lt
        omega
    · cases event
  | _ => cases event

end XSDK.Trace
