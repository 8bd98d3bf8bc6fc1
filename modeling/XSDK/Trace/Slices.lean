import XSDK.Trace.Tracker

/-! What the tracker keeps while records come in the order of their times: the state slices of
one task lie behind each other. -/
namespace XSDK.Trace

def Slice.isState (s : Slice) : Bool :=
  match s.name with
  | .state _ => true
  | .isr _ => false

def Slice.Then (x y : Slice) : Prop := x.tid = y.tid → x.ts + x.dur ≤ y.ts

structure Timed (openSlices : List (Nat × TaskState × Nat)) (states : List Slice) (now : Nat) : Prop where
  opened : ∀ entry ∈ openSlices, entry.2.2 ≤ now
  ended : ∀ s ∈ states, s.ts + s.dur ≤ now
  apart : states.Pairwise Slice.Then
  behind : ∀ entry ∈ openSlices, ∀ s ∈ states, s.tid = entry.1 → s.ts + s.dur ≤ entry.2.2

theorem Timed.close {openSlices : List (Nat × TaskState × Nat)} {states : List Slice} {s : Slice}
    (timed : Timed openSlices states now) (ends : s.ts + s.dur ≤ now) (behind : ∀ x ∈ states, x.Then s)
    (closed : ∀ entry ∈ openSlices, entry.1 ≠ s.tid) : Timed openSlices (states ++ [s]) now := by
  constructor
  · exact timed.opened
  · intro x mem
    rcases List.mem_append.mp mem with old | new
    · exact timed.ended x old
    · rw [List.mem_singleton.mp new]
      exact ends
  · apply List.pairwise_append.mpr
    refine ⟨timed.apart, List.pairwise_singleton _ _, ?_⟩
    intro x inside y new
    rw [List.mem_singleton.mp new]
    exact behind x inside
  · intro entry mem x inside same
    rcases List.mem_append.mp inside with old | new
    · exact timed.behind entry mem x old same
    · rw [List.mem_singleton.mp new] at same
      exact absurd same.symm (closed entry mem)

namespace Tracker

variable {t : Tracker} {now : Nat}

def states (t : Tracker) : List Slice := t.slices.filter Slice.isState

def TimedAt (t : Tracker) (now : Nat) : Prop := Timed t.openSlices t.states now

variable (taskNames : Nat → Option String)

theorem init_timed : (init taskNames).TimedAt 0 := by
  constructor
  · intro entry mem
    cases mem
  · intro s mem
    cases mem
  · exact List.Pairwise.nil
  · intro entry mem
    cases mem

theorem TimedAt.later (timed : t.TimedAt now) {tsUs : Nat} (le : now ≤ tsUs) : t.TimedAt tsUs :=
  ⟨fun entry mem => le_trans (timed.opened entry mem) le, fun s mem => le_trans (timed.ended s mem) le, timed.apart,
    timed.behind⟩

variable {l : List (Nat × TaskState × Nat)} {records : List TraceRecord} {value : TaskState × Nat} {key : Nat}

theorem mem_setKey
    {entry : Nat × TaskState × Nat} (mem : entry ∈ setKey key value l) : entry = (key, value) ∨ entry ∈ l := by
  induction l with
  | nil =>
    rw [setKey, List.mem_singleton] at mem
    exact .inl mem
  | cons head rest ih =>
    obtain ⟨other, old⟩ := head
    rw [setKey] at mem
    split at mem
    · rcases List.mem_cons.mp mem with new | after
      · exact .inl new
      · exact .inr (List.mem_cons_of_mem _ after)
    · rcases List.mem_cons.mp mem with rfl | after
      · exact .inr List.mem_cons_self
      · rcases ih after with new | there
        · exact .inl new
        · exact .inr (List.mem_cons_of_mem _ there)

theorem mem_of_lookup
    (found : l.lookup key = some value) : (key, value) ∈ l := by
  induction l with
  | nil => cases found
  | cons head rest ih =>
    obtain ⟨other, old⟩ := head
    rw [List.lookup_cons] at found
    split at found
    · rename_i same
      rw [Option.some.injEq] at found
      rw [eq_of_beq same, found]
      exact List.mem_cons_self
    · exact List.mem_cons_of_mem _ (ih found)

variable (taskId : Nat)

theorem registerTask_timed (timed : t.TimedAt now) : (t.registerTask taskId).TimedAt now := by
  rw [registerTask]
  split
  · exact timed
  · exact timed

theorem begin'_timed (state : TaskState) (timed : t.TimedAt now) : (t.begin' taskId state now).TimedAt now := by
  rw [begin']
  apply registerTask_timed
  constructor
  · intro entry mem
    rcases mem_setKey mem with rfl | old
    · exact le_refl _
    · exact timed.opened entry old
  · exact timed.ended
  · exact timed.apart
  · intro entry mem s inside same
    rcases mem_setKey mem with rfl | old
    · exact timed.ended s inside
    · exact timed.behind entry old s inside same

/-- A task's open slice is behind its closed ones, so it may be closed at any time. -/
theorem end'_timed (taskId tsUs : Nat) (timed : t.TimedAt now) : (t.end' taskId tsUs).TimedAt (max now tsUs) := by
  rw [end']
  cases found : t.openSlices.lookup taskId with
  | none => exact timed.later (le_max_left _ _)
  | some entry =>
    obtain ⟨state, startUs⟩ := entry
    have there := mem_of_lookup found
    have kept : Timed (t.openSlices.filter fun entry => entry.1 ≠ taskId) t.states (max now tsUs) := by
      constructor
      · intro entry mem
        exact le_trans (timed.opened entry (List.mem_filter.mp mem).1) (le_max_left _ _)
      · intro s inside
        exact le_trans (timed.ended s inside) (le_max_left _ _)
      · exact timed.apart
      · intro entry mem
        exact timed.behind entry (List.mem_filter.mp mem).1
    simp only
    split
    · rename_i positive
      rw [TimedAt, states, List.filter_append]
      apply kept.close
      · change startUs + (tsUs - startUs) ≤ max now tsUs
        omega
      · intro x inside same
        exact timed.behind _ there x inside same
      · intro entry mem
        exact of_decide_eq_true (List.mem_filter.mp mem).2
    · exact kept

theorem close_timed (timed : t.TimedAt now) : (t.end' taskId now).TimedAt now := by
  have ended := end'_timed taskId now timed
  rw [max_self] at ended
  exact ended

theorem restart_timed (state : TaskState) (timed : t.TimedAt now) :
    ((t.end' taskId now).begin' taskId state now).TimedAt now := begin'_timed taskId state (close_timed taskId timed)

theorem left_timed (prevId : Option Nat) (timed : t.TimedAt now) : Tracker.TimedAt (match prevId with
    | none => t
    | some prevId =>
      if t.state prevId = some .running then (t.end' prevId now).begin' prevId .ready now else t) now := by
  cases prevId with
  | none => exact timed
  | some prevId =>
    simp only
    split
    · exact restart_timed prevId .ready timed
    · exact timed

theorem switchTo_timed (prevId nextId : Option Nat) (timed : t.TimedAt now) :
    (t.switchTo prevId nextId now).TimedAt now := by
  unfold switchTo
  have left := left_timed prevId timed
  cases nextId with
  | none => exact left
  | some nextId => exact restart_timed nextId .running left

theorem block_timed (timed : t.TimedAt now) : (t.block taskId now).TimedAt now := by
  have blocked := restart_timed taskId .blocked timed
  rw [block]
  split
  · exact blocked
  · exact blocked

theorem isrExit_timed (timed : t.TimedAt now) : (t.isrExit now).TimedAt now := by
  rw [isrExit]
  cases stack : t.isrStack with
  | nil => exact timed
  | cons top rest =>
    obtain ⟨interruptedTask, vector, startUs⟩ := top
    simp only
    split
    · rw [TimedAt, states, List.filter_append]
      -- an interrupt's slice is no state slice
      have none_new : List.filter Slice.isState [⟨.isr vector, interruptedTask, startUs, now - startUs⟩] = [] := rfl
      rw [none_new, List.append_nil]
      exact timed
    · exact timed

theorem process_timed (record : TraceRecord) (timed : t.TimedAt record.timestamp) :
    (t.process record).TimedAt record.timestamp := by
  simp only [process]
  split
  · exact begin'_timed _ .running timed
  split
  · split
    · exact registerTask_timed _ timed
    · exact timed
  split
  · exact switchTo_timed _ _ timed
  split
  · split
    · exact timed
    · exact block_timed _ timed
  split
  · split
    · exact timed
    · exact restart_timed _ .ready timed
  split
  · split
    · exact timed
    · exact close_timed _ timed
  split
  · split
    · exact timed
    · exact timed
  split
  · exact isrExit_timed timed
  · exact timed

theorem processAll_timed (timed : t.TimedAt now)
    (sorted : records.Pairwise fun x y => x.timestamp ≤ y.timestamp) (later : ∀ r ∈ records, now ≤ r.timestamp) :
    ∃ last, (t.processAll records).TimedAt last := by
  induction records generalizing t now with
  | nil => exact ⟨now, timed⟩
  | cons record records ih =>
    obtain ⟨behind, rest⟩ := List.pairwise_cons.mp sorted
    have here := process_timed record (timed.later (later record List.mem_cons_self))
    exact ih here rest behind

theorem finalize_timed (endTsUs : Nat) (timed : t.TimedAt now) : ∃ last, (t.finalize endTsUs).TimedAt last := by
  rw [finalize]
  generalize t.openSlices.map (·.1) = tasks
  induction tasks generalizing t now with
  | nil => exact ⟨now, timed⟩
  | cons taskId tasks ih => exact ih (end'_timed taskId endTsUs timed)

theorem runningSlices_apart
    (sorted : records.Pairwise fun x y => x.timestamp ≤ y.timestamp) (endTsUs : Nat) :
    (((init taskNames).processAll records).finalize endTsUs).runningSlices.Pairwise Slice.Then := by
  obtain ⟨now, timed⟩ := processAll_timed (init_timed taskNames) sorted fun r _ => Nat.zero_le _
  obtain ⟨last, final⟩ := finalize_timed endTsUs timed
  apply List.Pairwise.sublist _ final.apart
  apply List.monotone_filter_right
  intro s running
  rw [decide_eq_true_eq] at running
  rw [Slice.isState, running]

end Tracker

end XSDK.Trace
