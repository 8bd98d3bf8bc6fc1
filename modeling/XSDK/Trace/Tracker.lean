import XSDK.Trace.Decoder

/-! The host's tracker of task states, and the rolling load of the processor it computes from
the slices. Microseconds are naturals, and what the tracker computes with fractions is exact. -/
namespace XSDK.Trace

inductive TaskState where
  | running
  | ready
  | blocked
  deriving DecidableEq, Repr

/-- A slice shows a state of its task or an interrupt on the task's row. -/
inductive SliceName where
  | state (state : TaskState)
  | isr (vector : Nat)
  deriving DecidableEq, Repr

structure Slice where
  name : SliceName
  tid : Nat
  ts : Nat
  dur : Nat
  deriving DecidableEq, Repr

structure Tracker where
  taskNames : Nat → Option String
  running : Option Nat
  /-- The open slice of each task: its state and its start. -/
  openSlices : List (Nat × TaskState × Nat)
  slices : List Slice
  metadata : List (Nat × String)
  /-- The interrupted task, the vector and the start, the last one first. -/
  isrStack : List (Nat × Nat × Nat)

def Tracker.init (taskNames : Nat → Option String) : Tracker := ⟨taskNames, none, [], [], [], []⟩

def eventNameById : Nat → Option String
  | 0x20 => some "KERNEL_START"
  | 0x21 => some "TASK_CREATE"
  | 0x22 => some "TASK_SWITCH"
  | 0x23 => some "TASK_READY"
  | 0x24 => some "TASK_BLOCK"
  | 0x25 => some "TASK_EXIT"
  | 0x26 => some "TASK_TIMEOUT"
  | 0x27 => some "TASK_PRIO"
  | 0x36 => some "ISR_ENTER"
  | 0x37 => some "ISR_EXIT"
  | 0x10 => some "KERNEL_START"
  | 0x11 => some "TASK_CREATE"
  | 0x12 => some "TASK_SWITCH"
  | 0x13 => some "TASK_READY"
  | 0x14 => some "TASK_BLOCK"
  | 0x15 => some "TASK_EXIT"
  | 0x16 => some "TASK_TIMEOUT"
  | 0x17 => some "TASK_PRIO"
  | _ => none

def eventName (record : TraceRecord) : Option String := orText record.name (eventNameById record.eventId)

/-- Set the value of a key, in its old place when there is one. -/
def setKey {α : Type} (key : Nat) (value : α) : List (Nat × α) → List (Nat × α)
  | [] => [(key, value)]
  | (other, old) :: rest => if other = key then (key, value) :: rest else (other, old) :: setKey key value rest

namespace Tracker

variable (t : Tracker) (taskId : Nat)

def registerTask : Tracker :=
  if (t.metadata.lookup taskId).isSome then t
  else { t with metadata := t.metadata ++ [(taskId, (t.taskNames taskId).getD ("Task" ++ toString taskId))] }

def begin' (state : TaskState) (tsUs : Nat) : Tracker :=
  ({ t with openSlices := setKey taskId (state, tsUs) t.openSlices } : Tracker).registerTask taskId

def state : Option TaskState := (t.openSlices.lookup taskId).map (·.1)

def end' (taskId tsUs : Nat) : Tracker :=
  match t.openSlices.lookup taskId with
  | none => t
  | some (state, startUs) =>
    let t := { t with openSlices := t.openSlices.filter fun entry => entry.1 ≠ taskId }
    let durUs := tsUs - startUs
    if 0 < durUs then { t with slices := t.slices ++ [⟨.state state, taskId, startUs, durUs⟩] } else t

def switchTo (prevId nextId : Option Nat) (tsUs : Nat) : Tracker :=
  let t :=
    match prevId with
    | none => t
    | some prevId =>
      if t.state prevId = some .running then (t.end' prevId tsUs).begin' prevId .ready tsUs else t
  match nextId with
  | none => t
  | some nextId => { (t.end' nextId tsUs).begin' nextId .running tsUs with running := some nextId }

def block (tsUs : Nat) : Tracker :=
  let t := (t.end' taskId tsUs).begin' taskId .blocked tsUs
  if t.running = some taskId then { t with running := none } else t

def isrExit (tsUs : Nat) : Tracker :=
  match t.isrStack with
  | [] => t
  | (interruptedTask, vector, startUs) :: rest =>
    let t := { t with isrStack := rest }
    let durUs := tsUs - startUs
    if 0 < durUs then { t with slices := t.slices ++ [⟨.isr vector, interruptedTask, startUs, durUs⟩] } else t

def process (record : TraceRecord) : Tracker :=
  let name := eventName record
  let tsUs := record.timestamp
  let first := record.params[0]?
  let second := record.params[1]?
  if name = some "KERNEL_START" then
    { t.begin' (first.getD 0) .running tsUs with running := some (first.getD 0) }
  else if name = some "TASK_CREATE" ∨ name = some "TASK_PRIO" then
    match first, second with
    | some taskId, some _ => t.registerTask taskId
    | _, _ => t
  else if name = some "TASK_SWITCH" then t.switchTo first second tsUs
  else if name = some "TASK_BLOCK" then
    match first.or t.running with
    | none => t
    | some taskId => t.block taskId tsUs
  else if name = some "TASK_READY" ∨ name = some "TASK_TIMEOUT" then
    match first with
    | none => t
    | some taskId => (t.end' taskId tsUs).begin' taskId .ready tsUs
  else if name = some "TASK_EXIT" then
    match first with
    | none => t
    | some taskId => t.end' taskId tsUs
  else if name = some "ISR_ENTER" then
    match t.running with
    | none => t
    | some task => { t with isrStack := (task, first.getD 0, tsUs) :: t.isrStack }
  else if name = some "ISR_EXIT" then t.isrExit tsUs
  else t

def processAll (records : List TraceRecord) : Tracker := records.foldl process t

def finalize (endTsUs : Nat) : Tracker := (t.openSlices.map (·.1)).foldl (fun t taskId => t.end' taskId endTsUs) t

/- The rolling load. -/

def runningSlices : List Slice := t.slices.filter fun s => s.name = .state .running

def taskName : String := (t.metadata.lookup taskId).getD ("Task" ++ toString taskId)

end Tracker

def Slice.interval (s : Slice) : ℚ × ℚ := (s.ts, s.ts + s.dur)

def beforeOrAt (x y : ℚ × ℚ) : Bool := decide (x.1 < y.1 ∨ x.1 = y.1 ∧ x.2 ≤ y.2)

def sortedSet (l : List Nat) : List Nat := l.dedup.mergeSort fun a b => decide (a ≤ b)

/-- The tasks in order, each with its intervals in order. -/
def byTask (running : List Slice) : List (Nat × List (ℚ × ℚ)) :=
  (sortedSet (running.map (·.tid))).map fun taskId =>
    (taskId, ((running.filter fun s => s.tid = taskId).map Slice.interval).mergeSort beforeOrAt)

def advanceIndex (ivs : List (ℚ × ℚ)) (winStart : ℚ) (idx : Nat) : Nat :=
  idx + ((ivs.drop idx).takeWhile fun iv => decide (iv.2 ≤ winStart)).length

/-- The intervals from the start index on; the first that starts after the window ends the scan. -/
def scanOverlap (winStart tsUs : ℚ) : List (ℚ × ℚ) → ℚ → ℚ
  | [], overlap => overlap
  | (start, stop) :: ivs, overlap =>
    if tsUs ≤ start then overlap
    else
      let oS := max start winStart
      let oE := min stop tsUs
      scanOverlap winStart tsUs ivs (if oS < oE then overlap + (oE - oS) else overlap)

inductive CpuEvent where
  | processName
  | threadName (tid : Nat) (name : String)
  /-- The load in percent, before it is rounded to a tenth. -/
  | counter (name : String) (tid ts : Nat) (cpu : ℚ)

/-- One task at one switch time: its start index moves up, and a counter event is added. -/
def Tracker.loadTask (t : Tracker) (windowUs : ℚ) (tsUs : Nat) (acc : (Nat → Nat) × List CpuEvent)
    (task : Nat × List (ℚ × ℚ)) : (Nat → Nat) × List CpuEvent :=
  let winStart := (tsUs : ℚ) - windowUs
  let idx := advanceIndex task.2 winStart (acc.1 task.1)
  let overlap := scanOverlap winStart tsUs (task.2.drop idx) 0
  let pct := if 0 < windowUs then overlap / windowUs * 100 else 0
  (Function.update acc.1 task.1 idx, acc.2 ++ [.counter (t.taskName task.1) task.1 tsUs pct])

def Tracker.cpuLoadCounters (t : Tracker) (windowUs : ℚ) : List CpuEvent :=
  let running := t.runningSlices
  if running = [] then []
  else
    let tasks := byTask running
    let switchTimes := sortedSet (running.map (·.ts))
    let metadata := .processName :: tasks.map fun task => .threadName task.1 (t.taskName task.1)
    (switchTimes.foldl (fun acc tsUs => tasks.foldl (t.loadTask windowUs tsUs) acc) (fun _ => 0, metadata)).2

end XSDK.Trace
