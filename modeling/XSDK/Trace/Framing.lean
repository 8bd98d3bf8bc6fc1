import XSDK.Trace.Cobs
import XSDK.Trace.DropStream

/-! The stream over a framing transport: every write of a flush is one frame. The host reads
the same records as from the bare stream when no record lies across the end of the ring
while a flush drains it, and damage stays in its frame. -/
namespace XSDK.Trace

open Library
open List (append_assoc append_nil flatMap_cons flatten_cons map_append map_cons mem_append mem_cons_of_mem)

variable {config : Config} {bootTs ts : UInt32} {s s' : Session} {c : Call} {e : Event} {sizeMax capacity : Nat}

def takeAll : Write := ⟨[], some, []⟩

/-- The writes of one flush: two at most, the ring's end and its beginning. -/
def adapter : List Write := [takeAll, takeAll]

def transmitted (sizeMax : Nat) (writes : List (List UInt8)) : List UInt8 := writes.flatMap (adapterFrame sizeMax)

/-- The bytes that the first write of a flush is offered. -/
def Session.firstPiece (s : Session) : List UInt8 :=
  Ring.slice s.ctx.buffer s.ctx.readPos (Session.contiguous s.ctx)

def EndsWhole (s : Session) : Prop := ∃ rs, (∀ r ∈ rs, r.Readable) ∧ s.firstPiece = wire rs

def ShortCall (s : Session) (ts : UInt32) (c : Call) : Prop :=
  ∀ e, c.event = some e → isActive s.ctx e.eventId = true → ¬ isFull s.ctx ts e c.extraBytes →
    (e.record (s.ctx.eventDelta ts)).payload.length < 2 ^ 28

/-- Steps over the adapter: calls, and flushes that take everything. -/
def FramedStep (s : Session) : Step → Prop
  | .call ts c => ShortCall s ts c
  | .flush writes => writes = adapter ∧ (s.ctx.readPos ≠ s.ctx.writePos → EndsWhole s)

structure Framed (capacity : Nat) (s : Session) : Prop where
  placed : s.ctx.Placed
  sized : s.ctx.capacityBytes = capacity
  policy : s.ctx.overrunPolicy = .drop
  sent : ∃ groups : List (List RawRecord), s.writes = groups.map wire ∧ ∀ g ∈ groups, ∀ r ∈ g, r.Readable
  waiting : ∃ rs, s.waiting = wire rs ∧ ∀ r ∈ rs, r.Readable
  bounded : ∀ piece ∈ s.writes, piece.length ≤ capacity

theorem framed_call (framed : Framed capacity s) (short : ShortCall s ts c) (done : s.call ts c = some s') :
    Framed capacity s' := by
  obtain ⟨rs, waiting, readable⟩ := framed.waiting
  have quiet_case (quiet : Quiet s s') : Framed capacity s' := by
    constructor
    · rw [quiet.same]
      exact ⟨framed.placed.read, framed.placed.write⟩
    · rw [quiet.same]
      exact framed.sized
    · rw [quiet.same]
      exact framed.policy
    · rw [quiet.writes]
      exact framed.sent
    · rw [quiet.waiting]
      exact framed.waiting
    · rw [quiet.writes]
      exact framed.bounded
  cases event : c.event with
  | none => exact quiet_case (call_quiet event done)
  | some e =>
    cases active : isActive s.ctx e.eventId with
    | false => exact quiet_case (call_inactive event active done)
    | true =>
      by_cases full : isFull s.ctx ts e c.extraBytes
      · have dropped := call_full framed.policy event active full done
        constructor
        · rw [dropped.ctx]
          exact ⟨framed.placed.read, framed.placed.write⟩
        · rw [dropped.ctx]
          exact framed.sized
        · rw [dropped.ctx]
          exact framed.policy
        · rw [dropped.writes]
          exact framed.sent
        · rw [dropped.waiting]
          exact framed.waiting
        · rw [dropped.writes]
          exact framed.bounded
      · have limit := short e event active full
        have modest : (e.record (s.ctx.eventDelta ts)).payload.length < 2 ^ 30 := by omega
        have recorded := call_room framed.placed event active full modest done
        have words := event_words event (small_of_fresh (fresh_below (by omega) modest))
        have below : ∀ r ∈ s.ctx.fresh ts e, r.payload.length < 2 ^ 28 := fresh_below (by omega) limit
        have fresh := readable_fresh words below
        obtain ⟨grown, grows, after⟩ := recorded.ctx
        constructor
        · rw [after]
          exact ⟨grows.placed.read, grows.placed.write⟩
        · rw [after, Context.afterEvent, grows.same]
          exact framed.sized
        · rw [after, Context.afterEvent, grows.same]
          exact framed.policy
        · rw [recorded.writes]
          exact framed.sent
        · refine ⟨rs ++ s.ctx.fresh ts e, ?_, ?_⟩
          · rw [recorded.waiting, waiting, wire_append]
          · intro r mem
            rcases mem_append.mp mem with earlier | new
            · exact readable r earlier
            · exact fresh r new
        · rw [recorded.writes]
          exact framed.bounded

def Session.drained (s : Session) : Session :=
  { s with ctx := Session.advance s.ctx (Session.contiguous s.ctx), writes := s.writes ++ [s.firstPiece] }

theorem round_takeAll (placed : s.ctx.Placed) : s.round takeAll = some (s.drained, none) := by
  have pos : 0 < Session.contiguous s.ctx := Ring.contiguous_pos placed.read
  simp only [Session.round, takeAll, Session.calls, Option.bind_some, Option.map_some]
  rw [if_neg (Nat.lt_irrefl _), if_neg (by omega)]
  rfl

theorem drained_moved (placed : s.ctx.Placed) (waits : s.ctx.readPos ≠ s.ctx.writePos) : Moved s s.drained :=
  take_moved placed placed waits (Follows.refl s) (Follows.refl s) (Nat.le_refl _)

theorem pieces (placed : s.ctx.Placed) (waits : s.ctx.readPos ≠ s.ctx.writePos) :
    s.firstPiece ++ s.drained.waiting = s.waiting := by
  have le := Ring.contiguous_le_used placed.read placed.write waits
  have first : s.firstPiece = s.waiting.take (Session.contiguous s.ctx) :=
    Ring.slice_eq_take le (Ring.contiguous_end placed.read placed.write)
  have rest : s.drained.waiting = s.waiting.drop (Session.contiguous s.ctx) :=
    Ring.contents_advance placed.read placed.write le
  rw [first, rest, List.take_append_drop]

theorem framed_drained (framed : Framed capacity s) (waits : s.ctx.readPos ≠ s.ctx.writePos) (whole : EndsWhole s) :
    Framed capacity s.drained := by
  obtain ⟨groups, sent, groups_readable⟩ := framed.sent
  obtain ⟨rs, waiting, readable⟩ := framed.waiting
  obtain ⟨first, first_readable, piece⟩ := whole
  have cut := pieces framed.placed waits
  rw [piece, waiting] at cut
  obtain ⟨all, left⟩ := wire_split first_readable readable cut
  have in_buffer := Ring.contiguous_end framed.placed.read framed.placed.write
  constructor
  · exact (drained_moved framed.placed waits).placed
  · exact framed.sized
  · exact framed.policy
  · refine ⟨groups ++ [first], ?_, ?_⟩
    · rw [Session.drained, sent, piece, map_append, List.map_singleton]
    · intro g mem
      rcases mem_append.mp mem with old | new
      · exact groups_readable g old
      · rw [List.mem_singleton.mp new]
        exact first_readable
  · refine ⟨_, left, fun r mem => readable r ?_⟩
    rw [all]
    exact List.mem_append_right _ mem
  · intro p mem
    rcases mem_append.mp mem with old | new
    · exact framed.bounded p old
    · rw [List.mem_singleton.mp new, Session.firstPiece, Ring.length_slice, contiguous_eq, ← framed.sized]
      omega

theorem drained_start (placed : s.ctx.Placed) (still : s.drained.ctx.readPos ≠ s.drained.ctx.writePos) :
    s.drained.ctx.readPos = 0 := by
  have read : s.drained.ctx.readPos = (s.ctx.readPos + Session.contiguous s.ctx) % s.ctx.capacityBytes := rfl
  have write : s.drained.ctx.writePos = s.ctx.writePos := rfl
  have in_buffer := placed.read
  rw [read, write] at still
  rw [read]
  rw [Session.contiguous] at still ⊢
  split at still
  · next ahead =>
    rw [Nat.add_sub_cancel' (Nat.le_of_lt ahead), Nat.mod_eq_of_lt placed.write] at still
    exact absurd rfl still
  · next wraps =>
    rw [if_neg wraps, Nat.add_sub_cancel' (Nat.le_of_lt in_buffer), Nat.mod_self]

theorem endsWhole_start (framed : Framed capacity s) (waits : s.ctx.readPos ≠ s.ctx.writePos)
    (start : s.ctx.readPos = 0) :
    EndsWhole s := by
  obtain ⟨rs, waiting, readable⟩ := framed.waiting
  have placed := framed.placed
  have ahead : 0 < s.ctx.writePos := by omega
  have all : Session.contiguous s.ctx = Ring.used s.ctx.capacityBytes s.ctx.readPos s.ctx.writePos := by
    rw [Session.contiguous, Ring.used, start, if_pos ahead, if_pos (Nat.zero_le _)]
  have piece : s.firstPiece = s.waiting.take (Session.contiguous s.ctx) :=
    Ring.slice_eq_take (Nat.le_of_eq all) (Ring.contiguous_end placed.read placed.write)
  refine ⟨rs, readable, ?_⟩
  rw [piece, all, ← length_contents s.ctx, ← waiting]
  exact List.take_length

theorem flush_drains (framed : Framed capacity s) (whole : s.ctx.readPos ≠ s.ctx.writePos → EndsWhole s) :
    ∃ s', Session.flushLoop adapter s = some (s', .ok ()) ∧ Framed capacity s' ∧
    s'.ctx.readPos = s'.ctx.writePos := by
  by_cases waits : s.ctx.readPos ≠ s.ctx.writePos
  · have first := framed_drained framed waits (whole waits)
    by_cases still : s.drained.ctx.readPos ≠ s.drained.ctx.writePos
    · have start := drained_start framed.placed still
      have second := framed_drained first still (endsWhole_start first still start)
      have done : s.drained.drained.ctx.readPos = s.drained.drained.ctx.writePos := by
        by_cases left : s.drained.drained.ctx.readPos ≠ s.drained.drained.ctx.writePos
        · have zero := drained_start first.placed left
          have read : s.drained.drained.ctx.readPos =
              (s.drained.ctx.readPos + Session.contiguous s.drained.ctx) % s.drained.ctx.capacityBytes := rfl
          have ahead : s.drained.ctx.writePos > s.drained.ctx.readPos := by omega
          rw [Session.contiguous, if_pos ahead, Nat.add_sub_cancel' (Nat.le_of_lt ahead),
            Nat.mod_eq_of_lt first.placed.write] at read
          exact read
        · exact not_not.mp left
      refine ⟨s.drained.drained, ?_, second, done⟩
      rw [adapter, Session.flushLoop, if_pos waits, round_takeAll framed.placed]
      simp only
      rw [Session.flushLoop, if_pos still, round_takeAll first.placed]
      simp only
      rw [Session.flushLoop, if_neg (not_not.mpr done)]
    · refine ⟨s.drained, ?_, first, not_not.mp still⟩
      rw [adapter, Session.flushLoop, if_pos waits, round_takeAll framed.placed]
      simp only
      rw [Session.flushLoop, if_neg still]
  · refine ⟨s, ?_, framed, not_not.mp waits⟩
    rw [adapter, Session.flushLoop, if_neg waits]

theorem framed_step {step : Step} (framed : Framed capacity s) (ok : FramedStep s step)
    (done : s.step step = some s') :
    Framed capacity s' := by
  cases step with
  | call ts c => exact framed_call framed ok done
  | flush writes =>
    obtain ⟨rfl, whole⟩ := ok
    obtain ⟨last, loop, framed_last, _⟩ := flush_drains framed whole
    rw [Session.step, Session.flush] at done
    split at done
    · cases done
      exact framed
    · split at done
      · cases done
        exact framed
      · rw [loop] at done
        cases done
        exact framed_last

theorem framed_start {ctx : Context} (policy : config.overrunPolicy = .drop)
    (initialised : init config bootTs = .ok ctx) : Framed config.capacityBytes (.start ctx) := by
  have grows := init_grows initialised
  have bytes := start_bytes initialised
  constructor
  · exact grows.placed
  · change ctx.capacityBytes = config.capacityBytes
    rw [grows.same]
    rfl
  · change ctx.overrunPolicy = .drop
    rw [grows.same]
    exact policy
  · exact ⟨[], rfl, fun g mem => absurd mem List.not_mem_nil⟩
  · exact ⟨_, bytes, boots_readable⟩
  · exact fun piece mem => absurd mem List.not_mem_nil

theorem framed_run {start : Session} {steps : List Step} (framed : Framed capacity start)
    (run : Run FramedStep start steps s) :
    Framed capacity s := by
  induction run with
  | nil => exact framed
  | snoc _ ok next ih => exact framed_step ih ok next

/-- The claims on what went over the line: the frames yield the records of the bare
stream, and non-zero bytes in place of one frame's cost at most the records of its piece. -/
structure Contained (sizeMax : Nat) (s : Session) : Prop where
  same : recordsFromCobsStream [] (transmitted sizeMax s.writes) = (recordsFromStream s.sent).1
  damage : ∀ before piece after junk, s.writes = before ++ piece :: after → (∀ b ∈ junk, b ≠ 0) →
    ∃ first lost last garbage,
      before.flatten = wire first ∧ piece = wire lost ∧ after.flatten = wire last ∧
      (recordsFromStream s.sent).1 = first ++ lost ++ last ∧
      recordsFromCobsStream [] (transmitted sizeMax before ++ junk ++ 0 :: transmitted sizeMax after) =
        first ++ garbage ++ last

theorem wire_flatten (groups : List (List RawRecord)) : (groups.map wire).flatten = wire groups.flatten := by
  induction groups with
  | nil => rfl
  | cons g groups ih => rw [map_cons, flatten_cons, flatten_cons, wire_append, ih]

theorem transmitted_eq {writes : List (List UInt8)}
    (fits : ∀ piece ∈ writes, cobsMaxEncodedSize piece.length ≤ sizeMax) :
    transmitted sizeMax writes = (writes.map Cobs.packet).flatMap (· ++ [0]) := by
  induction writes with
  | nil => rfl
  | cons piece writes ih =>
    have rest := ih fun p mem => fits p (mem_cons_of_mem _ mem)
    rw [transmitted, flatMap_cons, adapterFrame_eq (fits piece List.mem_cons_self), map_cons, flatMap_cons, ← rest]
    rfl

theorem packets_nonzero (writes : List (List UInt8)) : ∀ f ∈ writes.map Cobs.packet, ∀ b ∈ f, b ≠ 0 := by
  intro f mem
  obtain ⟨piece, _, rfl⟩ := List.mem_map.mp mem
  exact Cobs.packet_nonzero piece

variable {groups : List (List RawRecord)}

theorem records_transmitted (readable : ∀ g ∈ groups, ∀ r ∈ g, r.Readable)
    (fits : ∀ piece ∈ groups.map wire, cobsMaxEncodedSize piece.length ≤ sizeMax) (rest : List UInt8) :
    recordsFromCobsStream [] (transmitted sizeMax (groups.map wire) ++ rest) =
      groups.flatten ++ recordsFromCobsStream [] rest := by
  have each : ((groups.map wire).map Cobs.packet).flatMap frameRecords = groups.flatten := by
    clear fits
    induction groups with
    | nil => rfl
    | cons g groups ih =>
      have later := ih fun g mem => readable g (mem_cons_of_mem _ mem)
      rw [map_cons, map_cons, flatMap_cons, later, frameRecords_packet,
        recordsFromStream_wire (readable g List.mem_cons_self), flatten_cons]
  rw [transmitted_eq fits, recordsFromCobsStream_frames (packets_nonzero _), each]

theorem flatten_readable (readable : ∀ g ∈ groups, ∀ r ∈ g, r.Readable) : ∀ r ∈ groups.flatten, r.Readable := by
  intro r mem
  obtain ⟨g, mem_g, mem_r⟩ := List.mem_flatten.mp mem
  exact readable g mem_g r mem_r

theorem cobsMaxEncodedSize_mono {m n : Nat} (le : m ≤ n) : cobsMaxEncodedSize m ≤ cobsMaxEncodedSize n := by
  have div : m / 254 ≤ n / 254 := Nat.div_le_div_right le
  rw [cobsMaxEncodedSize, cobsMaxEncodedSize]
  omega

theorem contained_of_framed (framed : Framed capacity s) (room : cobsMaxEncodedSize capacity ≤ sizeMax) :
    Contained sizeMax s := by
  obtain ⟨groups, sent, readable⟩ := framed.sent
  have fits : ∀ piece ∈ groups.map wire, cobsMaxEncodedSize piece.length ≤ sizeMax := by
    intro piece mem
    rw [← sent] at mem
    exact Nat.le_trans (cobsMaxEncodedSize_mono (framed.bounded piece mem)) room
  have bare : (recordsFromStream s.sent).1 = groups.flatten := by
    rw [Session.sent, sent, wire_flatten, recordsFromStream_wire (flatten_readable readable)]
  constructor
  · have all := records_transmitted readable fits []
    rw [append_nil] at all
    rw [sent, all, bare]
    exact append_nil _
  · intro before piece after junk cut nonzero
    rw [sent] at cut
    obtain ⟨front, back, groups_eq, before_eq, back_eq⟩ := List.map_eq_append_iff.mp cut
    obtain ⟨lost, last, rfl, rfl, rfl⟩ := List.map_eq_cons_iff.mp back_eq
    subst groups_eq before_eq
    have front_readable : ∀ g ∈ front, ∀ r ∈ g, r.Readable := fun g mem => readable g (List.mem_append_left _ mem)
    have last_readable : ∀ g ∈ last, ∀ r ∈ g, r.Readable := fun g mem =>
      readable g (List.mem_append_right _ (mem_cons_of_mem _ mem))
    have front_fits : ∀ piece ∈ front.map wire, cobsMaxEncodedSize piece.length ≤ sizeMax := by
      intro piece mem
      exact fits piece (by rw [map_append]; exact List.mem_append_left _ mem)
    have last_fits : ∀ piece ∈ last.map wire, cobsMaxEncodedSize piece.length ≤ sizeMax := by
      intro piece mem
      exact fits piece (by rw [map_append]; exact List.mem_append_right _ (mem_cons_of_mem _ mem))
    refine ⟨front.flatten, lost, last.flatten, frameRecords junk, wire_flatten front, rfl, wire_flatten last, ?_, ?_⟩
    · rw [bare, List.flatten_append, flatten_cons, append_assoc]
    · have tail := records_transmitted last_readable last_fits []
      rw [append_nil] at tail
      rw [append_assoc, records_transmitted front_readable front_fits, recordsFromCobsStream_frame nonzero [], tail,
        append_assoc]
      simp only [List.nil_append, recordsFromCobsStream, append_nil]

/-- Over the adapter, in a run whose flushes find no record across the ring's end. -/
theorem framed_stream_contained (config : Config) (bootTs : UInt32) (sizeMax : Nat)
    (policy : config.overrunPolicy = .drop) (room : cobsMaxEncodedSize config.capacityBytes ≤ sizeMax)
    {ctx : Context} (initialised : init config bootTs = .ok ctx) {steps : List Step} {s : Session}
    (run : Run FramedStep (.start ctx) steps s) : Contained sizeMax s :=
  contained_of_framed (framed_run (framed_start policy initialised) run) room

def oneCall : Call := .emit1 0x20 7

theorem framed_stream_contained_sample :
    ∃ s, Run FramedStep (.start smallContext) [.flush adapter, .call 1 oneCall, .flush adapter] s ∧
      Contained (2 ^ 32 - 1) s := by
  have run : ∃ s, Run FramedStep (.start smallContext)
      ([] ++ [.flush adapter] ++ [.call 1 oneCall] ++ [.flush adapter]) s := by
    refine ⟨_, .snoc (.snoc (.snoc .nil ⟨rfl, fun _ => ?_⟩ rfl) ?_ rfl) ⟨rfl, fun _ => ?_⟩ rfl⟩
    · refine ⟨[bootRecord 0 1], fun r mem => ?_, by decide⟩
      rw [List.mem_singleton.mp mem]
      exact boot_readable 0 1
    · intro e event active room
      cases event
      decide
    · refine ⟨[⟨0x20, 1, [7]⟩], fun r mem => ?_, by decide⟩
      rw [List.mem_singleton.mp mem]
      exact ⟨by decide, by decide, by decide, by decide⟩
  obtain ⟨s, run⟩ := run
  exact ⟨s, run, framed_stream_contained smallConfig 0 (2 ^ 32 - 1) rfl (by decide) rfl run⟩

def AdapterStep (_ : Session) : Step → Prop
  | .call _ _ => True
  | .flush writes => writes = adapter

/-- The third event lies across the end of the ring: neither of its frames yields it. -/
theorem framed_stream_diverges :
    ¬ ∀ steps s, Run AdapterStep (.start smallContext) steps s → Contained (2 ^ 32 - 1) s := by
  intro claimed
  have run : ∃ s, Run AdapterStep (.start smallContext)
      ([] ++ [.flush adapter] ++ [.call 1 oneCall] ++ [.call 2 (.emit3 0x20 1 2 3)] ++ [.call 3 oneCall] ++
        [.flush adapter]) s ∧
      recordsFromCobsStream [] (transmitted (2 ^ 32 - 1) s.writes) ≠ (recordsFromStream s.sent).1 :=
    ⟨_, .snoc (.snoc (.snoc (.snoc (.snoc .nil rfl rfl) trivial rfl) trivial rfl) trivial rfl) rfl rfl, by decide⟩
  obtain ⟨s, run, differ⟩ := run
  exact differ (claimed _ s run).same

end XSDK.Trace
