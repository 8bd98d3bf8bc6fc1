import XSDK.Usbmsc.Block

/-! What becomes of a command while the driver polls: it goes on through its stages, it is
stuck with its transfer, or it is over. -/
namespace XSDK.Usbmsc

open Library Library.Call Usbh
open Function (update update_self update_of_ne)

abbrev PollTransition := Transition Host PollEvent Unit

/-- What a call fixes of its command. -/
structure Command where
  cbw : Nat → UInt8
  tag : Nat
  data : Buffer
  total : Nat
  dataIn : Bool
  opcode : Nat
  capacity : Option Nat

def commandOf (x : MscInstance) : Command :=
  ⟨x.cbw, x.activeTag, x.dataBuffer, x.dataLength, x.activeDataIn, x.activeOpcode, x.capacity⟩

/-- The whole data of a command has gone through its buffer. -/
structure Moved (k : Nat) (command : Command) (s : PollTransition) (capacityBuffer : Nat → UInt8) : Prop where
  same : commandOf (s.pre.msc k) = command
  state : (s.pre.msc k).state = if command.dataIn = true then .dataIn else .dataOut
  whole : ∃ t n bytes, (s.pre.msc k).transfer = some t ∧
    ((s.pre.transfers t).data = command.data ∧ (s.pre.transfers t).length = command.total) ∧
    (s.input = .completed .complete n bytes ∧ command.total ≤ n) ∧
    (command.data = .mscCapacity k → capacityBuffer = overlay (s.pre.msc k).capacityBuffer bytes)

/-- The status block of a command has come in, and says that all of it has been done. -/
structure Passed (k : Nat) (command : Command) (s : PollTransition) : Prop where
  same : commandOf (s.pre.msc k) = command
  state : (s.pre.msc k).state = .status
  status : ∃ n bytes, (s.input = .completed .complete n bytes ∧ 13 ≤ n) ∧
    StatusFor (overlay (s.pre.msc k).csw bytes) command.cbw 0 ∧ readLE32 (overlay (s.pre.msc k).csw bytes) 8 = 0

def DataMoved (k : Nat) (command : Command) (trace : List PollTransition) (capacityBuffer : Nat → UInt8) : Prop :=
  ∃ front d middle, trace = front ++ d :: middle ∧ Moved k command d capacityBuffer

def Answered (k : Nat) (command : Command) (trace : List PollTransition) (capacityBuffer : Nat → UInt8) : Prop :=
  ∃ front d middle s rest, trace = front ++ d :: (middle ++ s :: rest) ∧
    Moved k command d capacityBuffer ∧ Passed k command s

/- The course of a command, as the events take it. -/

inductive Course
  | running
  | stuck
  | finished
  deriving DecidableEq, Repr

section Course

variable (c : Config) (hcd : Hcd) (k : Nat)

def failedTransfer (h : Host) (event : TransferEvent) (actualLength : Nat) : Bool :=
  match (h.msc k).transfer with
  | some t => decide (event ≠ .complete ∨ actualLength < (h.transfers t).length)
  | none => false

/-- The controller takes the stage after the present one. -/
def takesNext (h : Host) : Bool :=
  match (h.msc k).transfer, (h.msc k).nextStage k with
  | some t, some (some e, data, length) => (hcd.submitTransfer h.log t (h.bulkTransfer t e data length)).isOk
  | _, _ => true

/-- The controller does not give the transfer of the instance back. -/
def keepsTransfer (h : Host) : Bool :=
  match (h.msc k).transfer with
  | some t => (h.transfers t).isSubmitted && !(hcd.cancelTransfer h.log t).isOk
  | none => false

def Course.next (course : Course) (s : PollTransition) : Course :=
  match course, s.input with
  | .finished, _ => .finished
  | course, .stop => if keepsTransfer hcd k s.pre = true then course else .finished
  | course, .completed event n _ =>
    if failedTransfer k s.pre event n = true then .finished
    else if course = .stuck then .stuck
    else if (s.pre.msc k).state = .status then .finished
    else if takesNext hcd k s.pre = true then .running
    else .stuck
  | .running, .told t => if mscTransferHasError (s.pre.transfers t) = true then .stuck else .running
  | course, _ => course

def courseOf (trace : List PollTransition) : Course := trace.foldl (Course.next hcd k) .running

def fills (h : Host) (j : Nat) : Bool :=
  (mscBulkEndpointFind c h j true).isSome && (mscBulkEndpointFind c h j false).isSome &&
    decide ((firstFree c.mscMaxInstances fun k => (h.msc k).isAllocated) = some k)

def Unfilled (s : PollTransition) : Prop := ∀ j, s.input = .start j → fills c k s.pre j = false

end Course

variable {c : Config} {hcd : Hcd} {k i t : Nat} {h : Host}

theorem Grown.refl : Grown h h := ⟨[], rfl, fun _ => rfl⟩

theorem Grown.trans {h' h'' : Host} (first : Grown h h') (second : Grown h' h'') : Grown h h'' := by
  obtain ⟨early, log, silent⟩ := first
  obtain ⟨late, log', silent'⟩ := second
  refine ⟨late ++ early, by rw [log', log, List.append_assoc], fun pointer => ?_⟩
  rw [List.findSome?_append, silent', silent]
  rfl

variable {x : MscInstance} {h' : Host}

theorem Grown.push {r : Record} (log : h'.log = r :: h.log) (quiet : ∀ pointer, capacityRecord pointer r = none) :
    Grown h h' := by
  refine ⟨[r], log, fun pointer => ?_⟩
  rw [List.findSome?_cons, quiet]
  rfl

theorem Grown.same (log : h'.log = h.log) : Grown h h' := ⟨[], log, fun _ => rfl⟩

/- Standing instances. -/

theorem Standing.moved (standing : Standing c h) (up : Up h'.rootPortCount h')
    (seats : ∀ k', (h'.msc k').seat = (h.msc k').seat) (counters : ∀ k', (h'.msc k').nextTag < 2 ^ 32) :
    Standing c h' where
  up := up
  seats k' small allocated := by
    rw [(seat_fields (seats k')).1] at allocated
    obtain ⟨i, seated⟩ := standing.seats k' small allocated
    exact ⟨i, seated.moved up seats⟩
  luns k' small allocated := by
    rw [(seat_fields (seats k')).1] at allocated
    rw [(seat_fields (seats k')).2.2.2.2]
    exact standing.luns k' small allocated
  counters := counters

theorem Standing.turned (standing : Standing c h) (same : x.seat = (h.msc k).seat) (counter : x.nextTag < 2 ^ 32)
    (y : Transfer) (log : List Record) : Standing c (h.turned k t x y log) := by
  refine standing.moved ⟨standing.up.1, standing.up.2, standing.up.3, rfl⟩ (seat_update same) fun k' => ?_
  change (update h.msc k x k').nextTag < 2 ^ 32
  by_cases here : k' = k
  · rw [here, update_self]
    exact counter
  · rw [update_of_ne here]
    exact standing.counters k'

variable {capacityBuffer : Nat → UInt8} {y : Transfer} {capacity : Nat × Nat} {pointer : Nat}

theorem Reserved.turned (reserved : Reserved c k h) (same : x.seat = (h.msc k).seat)
    (counter : x.nextTag < 2 ^ 32) (own : ∀ t', (h.msc k).transfer = some t' → t' = t)
    (slot : x.transfer = some t ∨ SilentTransfer y) (log : List Record) : Reserved c k (h.turned k t x y log) where
  standing := reserved.standing.turned same counter y log
  instances k' other := by
    change SilentInstance (update h.msc k x k')
    rw [update_of_ne other]
    exact reserved.instances k' other
  transfers t' other := by
    rw [Host.turned_msc] at other
    change SilentTransfer (update h.transfers t y t')
    by_cases here : t' = t
    · rw [here, update_self]
      rcases slot with holds | silent
      · rw [here] at other
        exact absurd holds other
      · exact silent
    · rw [update_of_ne here]
      exact reserved.transfers t' fun holds => here (own t' holds)

/- Where a command stands. -/

def Wrote (pointer : Nat) (before after : Host) (capacity : Nat × Nat) : Prop :=
  ∃ more, after.log = more ++ before.log ∧ more.findSome? (capacityRecord pointer) = some capacity

inductive Stage (k : Nat) (command : Command) (x : MscInstance) (y : Transfer) (trace : List PollTransition) : Prop
  | command (state : x.state = .command)
  | data (state : x.state = if command.dataIn = true then .dataIn else .dataOut)
      (slot : y.data = command.data ∧ y.length = command.total)
  | status (state : x.state = .status) (slot : y.data = .mscCsw k ∧ y.length = 13)
      (moved : DataMoved k command trace x.capacityBuffer)

section Stand

variable (c : Config) (k : Nat) (command : Command) (before : Host)

structure Running (trace : List PollTransition) (h : Host) : Prop where
  reserved : Reserved c k h
  taken : (h.msc k).isAllocated = true
  same : commandOf (h.msc k) = command
  slot : ∃ t, (h.msc k).transfer = some t ∧ (t < c.maxTransfers ∧ (h.transfers t).isAllocated = true ∧
    (h.transfers t).isSubmitted = true) ∧ Stage k command (h.msc k) (h.transfers t) trace
  grown : Grown before h

structure Stuck (h : Host) : Prop where
  reserved : Reserved c k h
  taken : (h.msc k).isAllocated = true
  slot : ∃ t, (h.msc k).transfer = some t ∧ t < c.maxTransfers ∧ (h.transfers t).isAllocated = true ∧
    ((h.transfers t).isSubmitted = true → (h.msc k).state = .error ∨ (h.msc k).state = .resetRecovery)
  state : (h.msc k).state ≠ .ready

structure Over (trace : List PollTransition) (h : Host) : Prop where
  reserved : Reserved c k h
  free : (h.msc k).transfer = none
  silent : SilentInstance (h.msc k)
  here : (h.msc k).isAllocated = true ∨ (h.msc k).interfaceCtx = none
  passed : (h.msc k).state = .ready → ∃ capacityBuffer, Answered k command trace capacityBuffer ∧
    ∀ pointer, command.capacity = some pointer → command.opcode = 0x25 →
    Wrote pointer before h (capacityOf capacityBuffer)

inductive Stands (course : Course) (trace : List PollTransition) (h : Host) : Prop
  | finished (finished : Over c k command before trace h)
  | running (course : course = .running) (running : Running c k command before trace h)
  | stuck (course : course = .stuck) (stuck : Stuck c k h)

end Stand

variable {command : Command} {before : Host} {trace : List PollTransition} {s : PollTransition}

theorem DataMoved.more (moved : DataMoved k command trace capacityBuffer) :
    DataMoved k command (trace ++ [s]) capacityBuffer := by
  obtain ⟨front, d, middle, rfl, moves⟩ := moved
  exact ⟨front, d, middle ++ [s], by simp, moves⟩

theorem Answered.more (answered : Answered k command trace capacityBuffer) :
    Answered k command (trace ++ [s]) capacityBuffer := by
  obtain ⟨front, d, middle, s', rest, rfl, moves, passes⟩ := answered
  exact ⟨front, d, middle, s', rest ++ [s], by simp, moves, passes⟩

theorem DataMoved.answered (moved : DataMoved k command trace capacityBuffer) (passes : Passed k command s) :
    Answered k command (trace ++ [s]) capacityBuffer := by
  obtain ⟨front, d, middle, rfl, moves⟩ := moved
  exact ⟨front, d, middle, s, [], by simp, moves, passes⟩

theorem Stage.more (stage : Stage k command x y trace) : Stage k command x y (trace ++ [s]) := by
  cases stage with
  | command state => exact .command state
  | data state slot => exact .data state slot
  | status state slot moved => exact .status state slot moved.more

theorem Stage.busy (stage : Stage k command x y trace) :
    x.state = .command ∨ (x.state = .dataIn ∨ x.state = .dataOut) ∨ x.state = .status := by
  cases stage with
  | command state => exact .inl state
  | data state slot =>
    refine .inr (.inl ?_)
    rw [state]
    split
    · exact .inl rfl
    · exact .inr rfl
  | status state slot moved => exact .inr (.inr state)

theorem Wrote.grown {after later : Host} (wrote : Wrote pointer before after capacity)
    (grown : Grown after later) : Wrote pointer before later capacity := by
  obtain ⟨early, log, found⟩ := wrote
  obtain ⟨late, log', silent⟩ := grown
  refine ⟨late ++ early, by rw [log', log, List.append_assoc], ?_⟩
  rw [List.findSome?_append, silent, found]
  rfl

theorem Wrote.read {after : Host} (wrote : Wrote pointer before after capacity) :
    capacityWritten pointer before after = capacity := by
  obtain ⟨more, log, found⟩ := wrote
  have length : after.log.length - before.log.length = more.length := by
    rw [log, List.length_append]
    omega
  rw [capacityWritten, length, log, List.take_left, found]
  rfl

theorem Reserved.seated (reserved : Reserved c k h) (small : k < c.mscMaxInstances)
    (taken : (h.msc k).isAllocated = true) :
    ∃ i, Seated c k i h ∧ (h.msc k).interfaceCtx = some i := by
  obtain ⟨i, seated⟩ := reserved.standing.seats k small taken
  exact ⟨i, seated, seated.interface⟩

theorem Reserved.kept (reserved : Reserved c k h) (up : Up h'.rootPortCount h')
    (seats : ∀ k', (h'.msc k').seat = (h.msc k').seat) (counters : ∀ k', (h'.msc k').nextTag = (h.msc k').nextTag)
    (instances : ∀ k', k' ≠ k → (h'.msc k').dataBuffer = (h.msc k').dataBuffer ∧ (h'.msc k').capacity = (h.msc k').capacity)
    (holds : (h'.msc k).transfer = (h.msc k).transfer)
    (transfers : ∀ t, (h.msc k).transfer ≠ some t → h'.transfers t = h.transfers t) : Reserved c k h' where
  standing := reserved.standing.moved up seats fun k' => by
    rw [counters]
    exact reserved.standing.counters k'
  instances k' other := by
    obtain ⟨data, capacity⟩ := instances k' other
    obtain ⟨silentData, silentCapacity⟩ := reserved.instances k' other
    exact ⟨by rwa [data], by rwa [capacity]⟩
  transfers t other := by
    rw [holds] at other
    rw [transfers t other]
    exact reserved.transfers t other

theorem silent_zero : SilentTransfer .zero := fun submitted => absurd submitted nofun

theorem silent_forgotten (x : MscInstance) : SilentInstance x.forgotten := ⟨fun _ => nofun, rfl⟩

theorem Over.released {log : List Record} (reserved : Reserved c k h) (taken : (h.msc k).isAllocated = true)
    (holds : (h.msc k).transfer = some t) (same : x.seat = (h.msc k).seat) (counter : x.nextTag < 2 ^ 32)
    (passed : x.state = .ready → ∃ capacityBuffer, Answered k command trace capacityBuffer ∧
      ∀ pointer, command.capacity = some pointer → command.opcode = 0x25 →
        Wrote pointer before (h.turned k t x.forgotten .zero log) (capacityOf capacityBuffer)) :
    Over c k command before trace (h.turned k t x.forgotten .zero log) := by
  refine ⟨reserved.turned (x := x.forgotten) same counter (fun t' own => ?_) (.inr silent_zero) log, ?_, ?_, .inl ?_, fun ready => ?_⟩
  · rw [holds] at own
    exact (Option.some.inj own).symm
  · rw [Host.turned_msc]
    rfl
  · rw [Host.turned_msc]
    exact silent_forgotten x
  · rw [Host.turned_msc]
    exact (seat_fields same).1.trans taken
  · rw [Host.turned_msc] at ready
    exact passed ready

end XSDK.Usbmsc
