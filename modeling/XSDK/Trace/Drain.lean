import XSDK.Trace.Calls

/-! What a flush does to the bytes of a session, whatever comes in during its writes. -/
namespace XSDK.Trace

open Library

variable {s s' t : Session} {P : CallCondition} {Inv : Session → Prop}

structure Follows (s s' : Session) : Prop where
  readPos : s'.ctx.readPos = s.ctx.readPos
  capacityBytes : s'.ctx.capacityBytes = s.ctx.capacityBytes
  writes : s'.writes = s.writes
  waiting : s.waiting <+: s'.waiting

theorem Follows.refl (s : Session) : Follows s s := ⟨rfl, rfl, rfl, List.prefix_rfl⟩

theorem Follows.trans (first : Follows s s') (second : Follows s' t) : Follows s t := by
  constructor
  · rw [second.readPos, first.readPos]
  · rw [second.capacityBytes, first.capacityBytes]
  · rw [second.writes, first.writes]
  · exact first.waiting.trans second.waiting

theorem contiguous_eq (s : Session) :
    Session.contiguous s.ctx = Ring.contiguous s.ctx.capacityBytes s.ctx.readPos s.ctx.writePos := rfl

structure Moved (s s' : Session) : Prop where
  bytes : s'.bytes = s.bytes
  placed : s'.ctx.Placed
  attempts : s'.attempts = s.attempts
  same : s'.ctx = { s.ctx with readPos := s'.ctx.readPos }

theorem take_moved {reading : Session} {written : Nat} (placed : s.ctx.Placed) (later : t.ctx.Placed)
    (waits : s.ctx.readPos ≠ s.ctx.writePos) (before : Follows s reading) (after : Follows reading t)
    (le : written ≤ Session.contiguous s.ctx) :
    Moved t
      { t with
        ctx := Session.advance t.ctx written
        writes := t.writes ++ [Ring.slice reading.ctx.buffer s.ctx.readPos written] } := by
  have le_used := Ring.contiguous_le_used placed.read placed.write waits
  have in_buffer := Ring.contiguous_end placed.read placed.write
  rw [contiguous_eq] at le
  have there : written ≤ reading.waiting.length := by
    have length := before.waiting.length_le
    have used : s.waiting.length = _ := length_contents s.ctx
    omega
  have taken : Ring.slice reading.ctx.buffer s.ctx.readPos written = t.waiting.take written := by
    obtain ⟨more, appended⟩ := after.waiting
    rw [← appended, List.take_append_of_le_length there, ← before.readPos]
    apply Ring.slice_eq_take
    · rw [← length_contents reading.ctx]
      exact there
    · rw [before.readPos, before.capacityBytes]
      omega
  have still : written ≤ t.waiting.length := Nat.le_trans there after.waiting.length_le
  have dropped : (Session.advance t.ctx written).contents = t.waiting.drop written := by
    apply Ring.contents_advance later.read later.write
    rw [← length_contents t.ctx]
    exact still
  constructor
  · rw [Session.bytes, Session.bytes, Session.sent, Session.waiting, dropped, List.flatten_append, taken,
      List.flatten_singleton, List.append_assoc, List.take_append_drop]
    rfl
  · constructor
    · exact Nat.mod_lt _ (Nat.lt_of_le_of_lt (Nat.zero_le _) later.read)
    · exact later.write
  · rfl
  · rfl

structure Kept (P : CallCondition) (Inv : Session → Prop) : Prop where
  placed : ∀ s, Inv s → s.ctx.Placed
  call : ∀ taken s ts c s', Inv s → P taken s ts c → s.call ts c = some s' →
    Inv s' ∧ (taken = true → Follows s s')
  moved : ∀ s s', Inv s → Moved s s' → Inv s'

variable (kept : Kept P Inv)
include kept

theorem calls_keep {taken : Bool} {list : List (UInt32 × Call)} (inv : Inv s)
    (met : s.EveryCall (P taken) list) (done : s.calls list = some s') :
    Inv s' ∧ (taken = true → Follows s s') := by
  induction list generalizing s with
  | nil =>
    cases done
    exact ⟨inv, fun _ => Follows.refl _⟩
  | cons entry rest ih =>
    obtain ⟨ts, c⟩ := entry
    cases first : s.call ts c with
    | none =>
      rw [Session.calls, first] at done
      cases done
    | some mid =>
      rw [Session.calls, first] at done
      obtain ⟨inv_mid, follows_mid⟩ := kept.call _ _ _ _ _ inv met.1 first
      obtain ⟨inv_end, follows_end⟩ := ih inv_mid (met.2 mid first) done
      exact ⟨inv_end, fun takes => (follows_mid takes).trans (follows_end takes)⟩

theorem round_keeps {w : Write} {result : Option (Except Error Unit)} (inv : Inv s)
    (waits : s.ctx.readPos ≠ s.ctx.writePos) (before : s.EveryCall (P (w.takes (Session.contiguous s.ctx))) w.before)
    (after : ∀ reading, s.calls w.before = some reading →
      reading.EveryCall (P (w.takes (Session.contiguous s.ctx))) w.after)
    (done : s.round w = some (s', result)) : Inv s' := by
  cases first : s.calls w.before with
  | none =>
    rw [Session.round, first] at done
    cases done
  | some reading =>
    cases second : reading.calls w.after with
    | none =>
      simp only [Session.round, first, Option.bind_some, second] at done
      cases done
    | some last =>
      obtain ⟨inv_reading, follows_reading⟩ := calls_keep kept inv before first
      obtain ⟨inv_last, follows_last⟩ := calls_keep kept inv_reading (after reading first) second
      simp only [Session.round, first, Option.bind_some, second, Option.map_some] at done
      cases answer : w.answer (Session.contiguous s.ctx) with
      | none =>
        rw [answer] at done
        cases done
        exact inv_last
      | some written =>
        rw [answer] at done
        simp only at done
        split at done
        · cases done
          exact inv_last
        · split at done
          · cases done
            exact inv_last
          · next le nonzero =>
            cases done
            have takes : w.takes (Session.contiguous s.ctx) = true := by
              rw [Write.takes, answer]
              simp only [Bool.and_eq_true, decide_eq_true_eq]
              omega
            have offered : written ≤ Session.contiguous s.ctx := by omega
            exact kept.moved _ _ inv_last
              (take_moved (kept.placed _ inv) (kept.placed _ inv_last) waits (follows_reading takes)
                (follows_last takes) offered)

theorem flushLoop_keeps {writes : List Write} {result : Except Error Unit} (inv : Inv s)
    (met : s.EveryWrite P writes) (done : Session.flushLoop writes s = some (s', result)) : Inv s' := by
  induction writes generalizing s with
  | nil =>
    cases done
    exact inv
  | cons w writes ih =>
    rw [Session.flushLoop] at done
    split at done
    · next waits =>
      obtain ⟨before, after, rest⟩ := met waits
      cases round : s.round w with
      | none =>
        rw [round] at done
        cases done
      | some ended =>
        obtain ⟨next, outcome⟩ := ended
        have inv_next := round_keeps kept inv waits before after round
        rw [round] at done
        cases outcome with
        | none => exact ih inv_next (rest next round) done
        | some result =>
          cases done
          exact inv_next
    · cases done
      exact inv

theorem step_keeps {step : Step} (inv : Inv s) (met : step.Meets P s)
    (done : s.step step = some s') : Inv s' := by
  cases step with
  | call ts c => exact (kept.call _ _ _ _ _ inv met done).1
  | flush writes =>
    rw [Session.step, Session.flush] at done
    split at done
    · cases done
      exact inv
    · split at done
      · cases done
        exact inv
      · cases loop : Session.flushLoop writes s with
        | none =>
          rw [loop] at done
          cases done
        | some ended =>
          obtain ⟨last, result⟩ := ended
          rw [loop] at done
          cases done
          exact flushLoop_keeps kept inv met loop

theorem run_keeps {start : Session} {steps : List Step} (inv : Inv start)
    (run : Run (fun s step => step.Meets P s) start steps s) : Inv s := by
  induction run with
  | nil => exact inv
  | snoc _ met next ih => exact step_keeps kept ih met next

end XSDK.Trace
