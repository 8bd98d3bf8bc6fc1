import XSDK.Library.Brackets
import XSDK.Trace.CpuLoad

/-! The Perfetto export of the host: the slices on the tasks' tracks, in the order of the file.
Times are exact, so a microsecond is a thousand nanoseconds. -/
namespace XSDK.Trace

def Slice.stop (s : Slice) : Nat := s.ts + s.dur
def Slice.isRunning (s : Slice) : Bool := s.name = .state .running

namespace Perfetto

open Library.Brackets

def taskUuid (taskId : Nat) : Nat := 0x1001 + taskId
def eventUuid (idx : Nat) : Nat := 0x2001 + idx

def toNs (us : Nat) : Nat := us * 1000

/-- A slice as it is emitted. -/
structure Clipped where
  tsNs : Nat
  endNs : Nat
  name : SliceName
  uuid : Nat
  deriving DecidableEq

def Clipped.isIsr (c : Clipped) : Bool :=
  match c.name with
  | .state _ => false
  | .isr _ => true

def stateSlices (taskSlices : List Slice) (tid : Nat) : List Slice :=
  taskSlices.filter fun s => s.tid = tid ∧ s.isState

def isrSlices (taskSlices : List Slice) (tid : Nat) : List Slice :=
  taskSlices.filter fun s => s.tid = tid ∧ ¬s.isState

def whole (s : Slice) : Clipped := ⟨toNs s.ts, toNs s.stop, s.name, taskUuid s.tid⟩

variable (states : List Slice)

def containing (isrTs : Nat) : Option Slice :=
  states.find? fun s => s.isRunning ∧ toNs s.ts ≤ isrTs ∧ isrTs ≤ toNs s.stop

def clipIsr (isr : Slice) : Option Clipped :=
  let isrTs := toNs isr.ts
  let isrEnd := match containing states isrTs with
    | some s => min (toNs isr.stop) (toNs s.stop)
    | none => toNs isr.stop
  if isrEnd ≤ isrTs then none else some ⟨isrTs, isrEnd, isr.name, taskUuid isr.tid⟩

def clipTask (taskSlices : List Slice) (tid : Nat) : List Clipped :=
  (stateSlices taskSlices tid).map whole ++
    (isrSlices taskSlices tid).filterMap (clipIsr (stateSlices taskSlices tid))

def clipIsrToRunning (taskSlices : List Slice) : List Clipped :=
  (sortedSet (taskSlices.map (·.tid))).flatMap (clipTask taskSlices)

/-- What a packet was generated for: a slice by its place among the emitted ones, or a record. -/
inductive Source where
  | slice (index : Nat) (clipped : Clipped)
  | record (index : Nat)
  deriving DecidableEq

/-- A packet that begins or ends a slice, and what it is sorted by. -/
structure Event where
  tsNs : Nat
  order : Int
  uuid : Nat
  bracket : Bracket Source

def sliceEvents (clipped : List Clipped) : List Event :=
  clipped.zipIdx.flatMap fun (c, i) =>
    [⟨c.tsNs, if c.isIsr then 1 else 0, c.uuid, .opening (.slice i c)⟩,
      ⟨c.endNs, if c.isIsr then -1 else 0, c.uuid, .closing (.slice i c)⟩]

def orElse (text : Option String) (default : String) : String :=
  match text with
  | none => default
  | some text => if text = "" then default else text

def trackName (record : TraceRecord) : String := orElse record.track "default"

/-- The tracks in the order in which the records first name them. -/
def trackNames (records : List TraceRecord) : List String :=
  records.foldl (fun names record =>
    if record.isGap ∨ trackName record ∈ names then names else names ++ [trackName record]) []

def trackIndex (names : List String) (record : TraceRecord) : Nat :=
  (names.findIdx? fun name => name = trackName record).getD 0

/-- The slice packet of a record on its own track. Instants and counters begin and end nothing. -/
def standardEvent (names : List String) (record : TraceRecord) (index : Nat) : Option Event :=
  if record.isGap then none
  else if orElse record.eventType "instant" = "begin" then
    some ⟨toNs record.timestamp, 0, eventUuid (trackIndex names record), .opening (.record index)⟩
  else if orElse record.eventType "instant" = "end" then
    some ⟨toNs record.timestamp, 0, eventUuid (trackIndex names record), .closing (.record index)⟩
  else none

def standardEvents (records : List TraceRecord) : List Event :=
  records.zipIdx.filterMap fun (record, index) => standardEvent (trackNames records) record index

variable (taskNames : Nat → Option String)

/-- The slices of the tracker at the end of the records. -/
def taskSlices (records : List TraceRecord) : List Slice :=
  (((Tracker.init taskNames).processAll records).finalize
    (records.foldl (fun last record => max last record.timestamp) 0)).slices

def Event.upTo (x y : Event) : Bool := x.tsNs < y.tsNs ∨ x.tsNs = y.tsNs ∧ x.order ≤ y.order

variable (slices : List Slice)

def exportEvents (records : List TraceRecord) : List Event :=
  (sliceEvents (clipIsrToRunning slices) ++ standardEvents records).mergeSort Event.upTo

def trackPackets (records : List TraceRecord) (uuid : Nat) : List (Bracket Source) :=
  ((exportEvents slices records).filter fun e => e.uuid = uuid).map Event.bracket

/-! ### What a viewer should show -/

def startedIn (ts : Nat) : Option Slice :=
  states.find? fun s => s.isRunning ∧ s.ts ≤ ts ∧ ts < s.stop

/-- An interrupt is cut where the running slice ends in which it started. One that starts where its
task stops has nothing to show, and one outside of any running slice is shown as a whole. -/
def showIsr (isr : Slice) : Option Clipped :=
  match startedIn states isr.ts with
  | some s => some ⟨toNs isr.ts, toNs (min isr.stop s.stop), isr.name, taskUuid isr.tid⟩
  | none => if states.any fun s => s.isRunning ∧ s.stop = isr.ts then none else some (whole isr)

def showTask (tid : Nat) : List Clipped :=
  (stateSlices slices tid).map whole ++
    (isrSlices slices tid).filterMap (showIsr (stateSlices slices tid))

def openedSlice : Bracket Source → Option Clipped
  | .opening (.slice _ c) => some c
  | _ => none

/-- A task's track shows its slices: all packets are theirs, each end meets its own begin, and the
slices are the ones to show. -/
structure TrackNests (slices : List Slice) (records : List TraceRecord) (tid : Nat) : Prop where
  own : ∀ x ∈ trackPackets slices records (taskUuid tid), ∃ i c, x = .opening (.slice i c) ∨ x = .closing (.slice i c)
  nests : Nests (trackPackets slices records (taskUuid tid))
  shown : ((trackPackets slices records (taskUuid tid)).filterMap openedSlice).Perm (showTask slices tid)

/-- What keeps the slices of a task apart on its track. -/
structure Separable (slices : List Slice) (records : List TraceRecord) (tid : Nat) : Prop where
  /-- Interrupts of the task start at different times, unless it stops running right there. -/
  starts : (isrSlices slices tid).Pairwise fun x y => x.ts = y.ts →
    ∃ r ∈ stateSlices slices tid, r.isRunning = true ∧ r.stop = x.ts
  /-- An interrupt that no running slice touches does not reach over the edge of another slice. -/
  edges : ∀ x ∈ isrSlices slices tid,
    (∀ r ∈ stateSlices slices tid, r.isRunning = true → ¬(r.ts ≤ x.ts ∧ x.ts ≤ r.stop)) →
      ∀ s ∈ stateSlices slices tid,
        ¬(s.ts ≤ x.ts ∧ x.ts < s.stop ∧ s.stop < x.stop) ∧ ¬(x.ts < s.ts ∧ s.ts < x.stop ∧ x.stop ≤ s.stop)
  /-- No interrupt starts where one running slice of the task ends and the next one starts. -/
  joints : ∀ x ∈ isrSlices slices tid, ∀ r ∈ stateSlices slices tid, ∀ r' ∈ stateSlices slices tid,
    r.isRunning = true → r'.isRunning = true → r.stop = x.ts → r'.ts ≠ x.ts
  /-- No record begins or ends a slice on the task's track. -/
  tracks : ∀ e ∈ standardEvents records, e.uuid ≠ taskUuid tid

/-! ### The tracker's slices -/

section Tracked

open Tracker

variable {t t' : Tracker} {now : Nat}

structure IsrTimed (isrStack : List (Nat × Nat × Nat)) (isrs : List Slice) (now : Nat) : Prop where
  entered : ∀ e ∈ isrStack, e.2.2 ≤ now
  order : isrStack.Pairwise fun upper lower => lower.2.2 ≤ upper.2.2
  ended : ∀ s ∈ isrs, s.stop ≤ now
  laminar : isrs.Pairwise fun x y => x.stop ≤ y.stop ∧ (x.stop ≤ y.ts ∨ y.ts ≤ x.ts)
  around : ∀ e ∈ isrStack, ∀ s ∈ isrs, s.stop ≤ e.2.2 ∨ e.2.2 ≤ s.ts

def isrs (t : Tracker) : List Slice := t.slices.filter fun s => !s.isState

structure KeepsIsrs (t t' : Tracker) : Prop where
  stack : t'.isrStack = t.isrStack
  isrs : isrs t' = isrs t
  positive : (∀ s ∈ t.slices, 0 < s.dur) → ∀ s ∈ t'.slices, 0 < s.dur

namespace KeepsIsrs

theorem refl (t : Tracker) : KeepsIsrs t t := ⟨rfl, rfl, fun positive => positive⟩

theorem trans {t'' : Tracker} (first : KeepsIsrs t t') (second : KeepsIsrs t' t'') : KeepsIsrs t t'' :=
  ⟨second.stack.trans first.stack, second.isrs.trans first.isrs,
    fun positive => second.positive (first.positive positive)⟩

theorem registerTask (t : Tracker) (taskId : Nat) : KeepsIsrs t (t.registerTask taskId) := by
  rw [Tracker.registerTask]
  split
  · exact refl t
  · exact ⟨rfl, rfl, fun positive => positive⟩

theorem begin' (t : Tracker) (taskId : Nat) (state : TaskState) (tsUs : Nat) :
    KeepsIsrs t (t.begin' taskId state tsUs) := by
  have opened : KeepsIsrs t { t with openSlices := setKey taskId (state, tsUs) t.openSlices } :=
    ⟨rfl, rfl, fun positive => positive⟩
  exact opened.trans (registerTask _ taskId)

theorem end' (t : Tracker) (taskId tsUs : Nat) : KeepsIsrs t (t.end' taskId tsUs) := by
  rw [Tracker.end']
  split
  · exact refl t
  · next state startUs _ =>
    simp only
    split
    · next long =>
      refine ⟨rfl, ?_, fun positive s mem => ?_⟩
      · rw [Perfetto.isrs, List.filter_append]
        -- a state slice is none of an interrupt
        have none : [(⟨.state state, taskId, startUs, tsUs - startUs⟩ : Slice)].filter
            (fun s => !s.isState) = [] := rfl
        rw [none, List.append_nil]
        rfl
      · rcases List.mem_append.mp mem with old | new
        · exact positive s old
        · rw [List.mem_singleton.mp new]
          exact long
    · exact ⟨rfl, rfl, fun positive => positive⟩

theorem restart (t : Tracker) (taskId : Nat) (state : TaskState) (tsUs : Nat) :
    KeepsIsrs t ((t.end' taskId tsUs).begin' taskId state tsUs) := (end' t taskId tsUs).trans (begin' _ _ _ _)

theorem running (t : Tracker) (running : Option Nat) : KeepsIsrs t { t with running := running } :=
  ⟨rfl, rfl, fun positive => positive⟩

theorem left (t : Tracker) (prevId : Option Nat) (tsUs : Nat) : KeepsIsrs t (match prevId with
    | none => t
    | some prevId =>
      if t.state prevId = some .running then (t.end' prevId tsUs).begin' prevId .ready tsUs else t) := by
  cases prevId with
  | none => exact refl t
  | some prevId =>
    simp only
    split
    · exact restart t prevId .ready tsUs
    · exact refl t

theorem switchTo (t : Tracker) (prevId nextId : Option Nat) (tsUs : Nat) :
    KeepsIsrs t (t.switchTo prevId nextId tsUs) := by
  unfold Tracker.switchTo
  have left := left t prevId tsUs
  cases nextId with
  | none => exact left
  | some nextId => exact (left.trans (restart _ nextId .running tsUs)).trans (running _ _)

theorem block (t : Tracker) (taskId tsUs : Nat) : KeepsIsrs t (t.block taskId tsUs) := by
  rw [Tracker.block]
  split
  · exact (restart t taskId .blocked tsUs).trans (running _ none)
  · exact restart t taskId .blocked tsUs

end KeepsIsrs

theorem process_cases (t : Tracker) (record : TraceRecord) : KeepsIsrs t (t.process record) ∨
    (∃ task vector, t.process record = { t with isrStack := (task, vector, record.timestamp) :: t.isrStack }) ∨
      t.process record = t.isrExit record.timestamp := by
  simp only [process]
  split
  · exact .inl ((KeepsIsrs.begin' t _ .running _).trans (.running _ _))
  split
  · split
    · exact .inl (.registerTask t _)
    · exact .inl (.refl t)
  split
  · exact .inl (.switchTo t _ _ _)
  split
  · split
    · exact .inl (.refl t)
    · exact .inl (.block t _ _)
  split
  · split
    · exact .inl (.refl t)
    · exact .inl (.restart t _ .ready _)
  split
  · split
    · exact .inl (.refl t)
    · exact .inl (.end' t _ _)
  split
  · split
    · exact .inl (.refl t)
    · exact .inr (.inl ⟨_, _, rfl⟩)
  split
  · exact .inr (.inr rfl)
  · exact .inl (.refl t)

structure Tracked (t : Tracker) (now : Nat) : Prop where
  timed : IsrTimed t.isrStack (isrs t) now
  positive : ∀ s ∈ t.slices, 0 < s.dur

theorem Tracked.keep (tracked : Tracked t now) (keeps : KeepsIsrs t t') : Tracked t' now :=
  ⟨by rw [keeps.stack, keeps.isrs]; exact tracked.timed, keeps.positive tracked.positive⟩

theorem Tracked.later (tracked : Tracked t now) {later : Nat} (le : now ≤ later) : Tracked t later := by
  have timed := tracked.timed
  exact ⟨⟨fun e mem => le_trans (timed.entered e mem) le, timed.order, fun s mem => le_trans (timed.ended s mem) le,
    timed.laminar, timed.around⟩, tracked.positive⟩

theorem Tracked.enter (tracked : Tracked t now) (task vector : Nat) :
    Tracked { t with isrStack := (task, vector, now) :: t.isrStack } now := by
  have timed := tracked.timed
  refine ⟨⟨?_, ?_, timed.ended, timed.laminar, ?_⟩, tracked.positive⟩
  · intro e mem
    rcases List.mem_cons.mp mem with rfl | mem
    · exact le_refl _
    · exact timed.entered e mem
  · exact List.pairwise_cons.mpr ⟨timed.entered, timed.order⟩
  · intro e mem s inside
    rcases List.mem_cons.mp mem with rfl | mem
    · exact .inl (timed.ended s inside)
    · exact timed.around e mem s inside

/-- What is left last was entered last, so it lies inside of what stays open. -/
theorem Tracked.leave (tracked : Tracked t now) : Tracked (t.isrExit now) now := by
  have timed := tracked.timed
  rw [isrExit]
  cases stack : t.isrStack with
  | nil => exact tracked
  | cons top rest =>
    obtain ⟨task, vector, startUs⟩ := top
    rw [stack] at timed
    obtain ⟨under, order⟩ := List.pairwise_cons.mp timed.order
    have entered : ∀ e ∈ rest, e.2.2 ≤ now := fun e mem => timed.entered e (List.mem_cons_of_mem _ mem)
    have around : ∀ e ∈ rest, ∀ s ∈ isrs t, s.stop ≤ e.2.2 ∨ e.2.2 ≤ s.ts :=
      fun e mem => timed.around e (List.mem_cons_of_mem _ mem)
    have start : startUs ≤ now := timed.entered _ List.mem_cons_self
    simp only
    split
    · have all :
          isrs { t with isrStack := rest, slices := t.slices ++ [⟨.isr vector, task, startUs, now - startUs⟩] } =
            isrs t ++ [⟨.isr vector, task, startUs, now - startUs⟩] := by
        rw [isrs, List.filter_append]
        rfl
      have stop : (⟨.isr vector, task, startUs, now - startUs⟩ : Slice).stop = now := by
        exact Nat.add_sub_cancel' start
      refine ⟨⟨entered, order, ?_, ?_, ?_⟩, ?_⟩
      · intro s mem
        rw [all] at mem
        rcases List.mem_append.mp mem with old | new
        · exact timed.ended s old
        · rw [List.mem_singleton.mp new, stop]
      · rw [all]
        refine List.pairwise_append.mpr ⟨timed.laminar, List.pairwise_singleton _ _, fun x old y new => ?_⟩
        rw [List.mem_singleton.mp new, stop]
        exact ⟨timed.ended x old, timed.around _ List.mem_cons_self x old⟩
      · intro e mem s inside
        rw [all] at inside
        rcases List.mem_append.mp inside with old | new
        · exact around e mem s old
        · rw [List.mem_singleton.mp new]
          exact .inr (under e mem)
      · intro s mem
        rcases List.mem_append.mp mem with old | new
        · exact tracked.positive s old
        · rw [List.mem_singleton.mp new]
          assumption
    · exact ⟨⟨entered, order, timed.ended, timed.laminar, around⟩, tracked.positive⟩

variable {records : List TraceRecord}

theorem processAll_tracked (tracked : Tracked t now)
    (sorted : records.Pairwise fun x y => x.timestamp ≤ y.timestamp) (later : ∀ r ∈ records, now ≤ r.timestamp) :
    ∃ last, Tracked (t.processAll records) last := by
  induction records generalizing t now with
  | nil => exact ⟨now, tracked⟩
  | cons record records ih =>
    obtain ⟨behind, rest⟩ := List.pairwise_cons.mp sorted
    have here := tracked.later (later record List.mem_cons_self)
    suffices after : Tracked (t.process record) record.timestamp from ih after rest behind
    rcases process_cases t record with keeps | ⟨task, vector, entered⟩ | left
    · exact here.keep keeps
    · rw [entered]
      exact here.enter task vector
    · rw [left]
      exact here.leave

theorem finalize_keeps (t : Tracker) (endTsUs : Nat) : KeepsIsrs t (t.finalize endTsUs) := by
  rw [finalize]
  generalize t.openSlices.map (·.1) = tasks
  induction tasks generalizing t with
  | nil => exact .refl t
  | cons taskId tasks ih => exact (KeepsIsrs.end' t taskId endTsUs).trans (ih _)

/-- The slices of a run: none is empty, the states of a task lie behind each other, and interrupts
lie behind or inside each other, the inner one closed first. -/
structure Timeline (slices : List Slice) : Prop where
  positive : ∀ s ∈ slices, s.ts < s.stop
  states : slices.Pairwise fun x y => x.isState = true → y.isState = true → x.tid = y.tid → x.stop ≤ y.ts
  isrs : slices.Pairwise fun x y => x.isState = false → y.isState = false →
    x.stop ≤ y.stop ∧ (x.stop ≤ y.ts ∨ y.ts ≤ x.ts)

theorem taskSlices_timeline
    (sorted : records.Pairwise fun x y => x.timestamp ≤ y.timestamp) : Timeline (taskSlices taskNames records) := by
  obtain ⟨now, timed⟩ := processAll_timed (init_timed taskNames) sorted fun r _ => Nat.zero_le _
  obtain ⟨last, final⟩ := finalize_timed (records.foldl (fun last record => max last record.timestamp) 0) timed
  have start : Tracked (Tracker.init taskNames) 0 := by
    refine ⟨⟨?_, List.Pairwise.nil, ?_, List.Pairwise.nil, ?_⟩, ?_⟩
    · exact nofun
    · exact nofun
    · exact nofun
    · exact nofun
  obtain ⟨now', tracked⟩ := processAll_tracked start sorted fun r _ => Nat.zero_le _
  have finished := tracked.keep (finalize_keeps ((Tracker.init taskNames).processAll records)
    (records.foldl (fun last record => max last record.timestamp) 0))
  refine ⟨fun s mem => Nat.lt_add_of_pos_right (finished.positive s mem), ?_, ?_⟩
  · have apart := List.pairwise_filter.mp final.apart
    exact apart.imp fun {x y} apart first second same => apart first second same
  · have laminar := List.pairwise_filter.mp finished.timed.laminar
    exact laminar.imp fun {x y} laminar first second => laminar (by rw [first]; rfl) (by rw [second]; rfl)

end Tracked

end Perfetto

end XSDK.Trace
