import XSDK.Bridge.Uart

/-! The bridge as two queues, over whole runs. -/
namespace XSDK.Bridge

open Library

namespace UartRing

variable {r : UartRing}

def contents (r : UartRing) : Bytes := Ring.contents r.buffer uartQueueBytes r.head r.tail

theorem available_eq (r : UartRing) : r.available = r.contents.length := by
  have head := r.head_lt
  rw [available, contents, Ring.length_contents, Ring.used]
  split
  · rfl
  · omega

theorem contents_empty : empty.contents = [] := Ring.contents_self

theorem put_contents {b : UInt8} (room : r.contents.length + 1 < uartQueueBytes) :
    (r.put b).contents = r.contents ++ [b] := by
  rw [contents, Ring.length_contents] at room
  exact Ring.contents_put r.head_lt r.tail_lt room

theorem putAll_contents (data : Bytes) (room : r.contents.length + data.length < uartQueueBytes) :
    (data.foldl put r).contents = r.contents ++ data := by
  induction data generalizing r with
  | nil => exact (List.append_nil _).symm
  | cons b rest ih =>
    rw [List.length_cons] at room
    have one : (r.put b).contents = r.contents ++ [b] := put_contents (by omega)
    rw [List.foldl_cons, ih, one, List.append_assoc]
    · rfl
    · rw [one, List.length_append, List.length_singleton]
      omega

theorem enqueue_ok {data : Bytes} (room : data.length ≤ r.freeSpace) :
    r.enqueue data = (.ok (), data.foldl put r) ∧ (data.foldl put r).contents = r.contents ++ data := by
  have less : r.contents.length < uartQueueBytes := by
    rw [contents, Ring.length_contents]
    exact Ring.used_lt r.tail_lt
  rw [freeSpace, available_eq] at room
  refine ⟨?_, putAll_contents data (by omega)⟩
  rw [enqueue, freeSpace, available_eq, if_neg (by omega)]

theorem enqueue_full {data : Bytes} (full : r.freeSpace < data.length) :
    r.enqueue data = (.error .queueFull, r) := if_pos full

theorem drop_contents (some : 0 < r.contents.length) : r.contents = r.buffer r.head :: r.drop.contents := by
  rw [contents, Ring.length_contents] at some
  have rest : r.drop.contents = r.contents.drop 1 := Ring.contents_advance r.head_lt r.tail_lt some
  have first : r.contents.take 1 = [r.buffer r.head] := by
    have fits : r.head + 1 ≤ uartQueueBytes := r.head_lt
    rw [contents, ← Ring.slice_eq_take some fits]
    rfl
  rw [rest]
  calc r.contents = r.contents.take 1 ++ r.contents.drop 1 := (List.take_append_drop 1 _).symm
    _ = _ := by rw [first]; rfl

theorem takeBytes_contents (n : Nat) (there : n ≤ r.contents.length) :
    r.contents = (takeBytes n r).1 ++ (takeBytes n r).2.contents := by
  induction n generalizing r with
  | zero => rfl
  | succ n ih =>
    have first := drop_contents (r := r) (by omega)
    have lengths := congrArg List.length first
    rw [List.length_cons] at lengths
    rw [first, takeBytes, List.cons_append, ← ih (by omega)]

theorem takeBytes_length (n : Nat) : (takeBytes n r).1.length = n := by
  induction n generalizing r with
  | zero => rfl
  | succ n ih => rw [takeBytes, List.length_cons, ih]

theorem dequeue_contents (r : UartRing) :
    r.contents = (r.dequeue uartChunkBytes).1 ++ (r.dequeue uartChunkBytes).2.contents ∧
      ((r.dequeue uartChunkBytes).1 = [] ↔ r.contents = []) := by
  have count : (if r.available < uartChunkBytes then r.available else uartChunkBytes) ≤ r.contents.length := by
    rw [available_eq]
    split <;> omega
  refine ⟨takeBytes_contents _ count, ?_⟩
  rw [← List.length_eq_zero_iff, ← List.length_eq_zero_iff, dequeue, takeBytes_length, available_eq]
  have some : 0 < uartChunkBytes := by decide
  split <;> omega

end UartRing

namespace Uart

variable {u : Uart} {answers : PollAnswers}

/-- No byte is lost, duplicated or reordered. -/
structure Lossless (u : Uart) : Prop where
  toUart : u.accepted = u.written ++ u.usbToUart.contents
  toUsb : u.received = u.sent ++ u.uartToUsb.contents

/-- What a poll reads from the UART, if it comes to that. -/
def arrived (answers : PollAnswers) : Bytes :=
  match answers.isRxReady, answers.read with
  | some true, .ok rx => rx.val
  | _, _ => []

def ReadOk (answers : PollAnswers) : Prop := answers.isRxReady = some true → ∃ rx, answers.read = .ok rx

/-- Whatever is taken out of a ring is taken, and what is read from the UART fits the ring. -/
def Taken (u : Uart) : UartInput → Prop
  | .poll answers =>
    (u.usbToUart.contents ≠ [] → answers.write = .ok ()) ∧ (arrived answers).length ≤ u.uartToUsb.freeSpace ∧
      (ReadOk answers → u.uartToUsb.contents ++ arrived answers ≠ [] → answers.send = .ok ())
  | _ => True

variable (lossless : Lossless u)
include lossless

theorem flush_lossless (taken : u.uartToUsb.contents ≠ [] → answers.send = .ok ()) :
    Lossless (u.flush answers).2 := by
  obtain ⟨first, none⟩ := u.uartToUsb.dequeue_contents
  rw [flush]
  rcases out : u.uartToUsb.dequeue uartChunkBytes with ⟨tx, ring⟩
  rw [out] at first none
  dsimp only at first none ⊢
  by_cases empty : tx = []
  · rw [if_pos empty]
    refine ⟨lossless.toUart, ?_⟩
    show u.received = u.sent ++ ring.contents
    rw [lossless.toUsb, first, empty]
    rfl
  · rw [if_neg empty, taken fun nothing => empty (none.mpr nothing)]
    refine ⟨lossless.toUart, ?_⟩
    show u.received = u.sent ++ tx ++ ring.contents
    rw [lossless.toUsb, first, List.append_assoc]

theorem collect_lossless (room : (arrived answers).length ≤ u.uartToUsb.freeSpace)
    (taken : ReadOk answers → u.uartToUsb.contents ++ arrived answers ≠ [] → answers.send = .ok ()) :
    Lossless (u.collect answers).2 := by
  rw [collect]
  by_cases ready : answers.isRxReady = some true
  · rw [if_pos ready]
    rcases read : answers.read with code | rx
    · exact lossless
    · have got : arrived answers = rx.val := by
        rw [arrived, ready, read]
      have readOk : ReadOk answers := fun _ => ⟨rx, read⟩
      have send := taken readOk
      rw [got] at room send
      by_cases empty : rx.val = []
      · rw [empty, List.append_nil] at send
        dsimp only
        rw [if_pos empty]
        exact flush_lossless lossless send
      · obtain ⟨run, holds⟩ := UartRing.enqueue_ok room
        dsimp only
        rw [if_neg empty, run]
        apply flush_lossless
        · refine ⟨lossless.toUart, ?_⟩
          show u.received ++ rx.val = u.sent ++ (rx.val.foldl UartRing.put u.uartToUsb).contents
          rw [holds, lossless.toUsb, List.append_assoc]
        · intro some
          apply send
          rwa [← holds]
  · have got : arrived answers = [] := by
      rw [arrived]
      split
      · next is _ => exact absurd is ready
      · rfl
    have send := taken fun now => absurd now ready
    rw [got, List.append_nil] at send
    rw [if_neg ready]
    exact flush_lossless lossless send

theorem poll_lossless (taken : Taken u (.poll answers)) : Lossless (u.poll answers).2 := by
  obtain ⟨write, room, send⟩ := taken
  obtain ⟨first, none⟩ := u.usbToUart.dequeue_contents
  rw [poll]
  rcases out : u.usbToUart.dequeue uartChunkBytes with ⟨tx, ring⟩
  rw [out] at first none
  dsimp only at first none ⊢
  by_cases empty : tx = []
  · rw [if_pos empty]
    refine collect_lossless ⟨?_, lossless.toUsb⟩ room send
    show u.accepted = u.written ++ ring.contents
    rw [lossless.toUart, first, empty]
    rfl
  · rw [if_neg empty, write fun nothing => empty (none.mpr nothing)]
    refine collect_lossless ⟨?_, lossless.toUsb⟩ room send
    show u.accepted = u.written ++ tx ++ ring.contents
    rw [lossless.toUart, first, List.append_assoc]

theorem onUsbReceive_lossless (data : Bytes) : Lossless (u.onUsbReceive data).2 := by
  rw [onUsbReceive]
  by_cases active : u.isDtrActive = true
  · rw [if_pos active]
    by_cases full : u.usbToUart.freeSpace < data.length
    · rw [UartRing.enqueue_full full]
      exact lossless
    · obtain ⟨run, holds⟩ := UartRing.enqueue_ok (Nat.le_of_not_lt full)
      rw [run]
      refine ⟨?_, lossless.toUsb⟩
      show u.accepted ++ data = u.written ++ (data.foldl UartRing.put u.usbToUart).contents
      rw [holds, lossless.toUart, List.append_assoc]
  · rw [if_neg active]
    exact lossless

theorem step_lossless {input : UartInput} (taken : Taken u input) : Lossless (uartMachine.step u input).1 := by
  cases input with
  | onUsbReceive data => exact onUsbReceive_lossless lossless data
  | onControlLineState dtr rts => exact ⟨lossless.toUart, lossless.toUsb⟩
  | poll answers => exact poll_lossless lossless taken

end Uart

/-- In every run whose polls lose nothing on the way, both directions are queues without loss. -/
theorem uart_lossless {u : Uart} {trace : List (Transition Uart UartInput (Except Error Unit))}
    (run : uartMachine.Run Uart.init trace u) (taken : ∀ tr ∈ trace, Uart.Taken tr.pre tr.input) : u.Lossless := by
  apply run.invariant_of taken
  · exact ⟨by rw [Uart.init, UartRing.contents_empty]; rfl, by rw [Uart.init, UartRing.contents_empty]; rfl⟩
  · exact fun _ _ lossless _ ok => Uart.step_lossless lossless ok

def quietAnswers : PollAnswers := ⟨.ok (), none, .error .peripheral, .ok ()⟩

def sampleUartInputs : List UartInput :=
  [.onControlLineState true false, .onUsbReceive [1, 2], .poll { quietAnswers with isRxReady := some true, read := .ok ⟨[3], by decide⟩ },
    .poll quietAnswers]

theorem uart_lossless_sample : (uartMachine.play Uart.init sampleUartInputs).Lossless := by
  apply uart_lossless
  · exact Machine.run_of_legal ⟨trivial, trivial, trivial, trivial, trivial⟩
  · simp only [sampleUartInputs, Machine.transitions, List.forall_mem_cons, List.not_mem_nil, false_implies, implies_true, and_true]
    exact ⟨trivial, trivial, ⟨fun _ => rfl, by decide, fun _ _ => rfl⟩, ⟨fun _ => rfl, by decide, fun _ _ => rfl⟩⟩

/-- A write that the UART refuses loses the bytes taken out for it, and so does a send. -/
theorem uart_loses :
    (∃ trace u, uartMachine.Run Uart.init trace u ∧ u.accepted ≠ u.written ++ u.usbToUart.contents) ∧
      ∃ trace u, uartMachine.Run Uart.init trace u ∧ u.received ≠ u.sent ++ u.uartToUsb.contents := by
  constructor
  · have legal : uartMachine.Legal Uart.init
        [.onControlLineState true false, .onUsbReceive [1], .poll { quietAnswers with write := .error .peripheral }] :=
      ⟨trivial, trivial, trivial, trivial⟩
    exact ⟨_, _, Machine.run_of_legal legal, by decide⟩
  · have legal : uartMachine.Legal Uart.init
        [.poll { quietAnswers with
          isRxReady := some true
          read := .ok ⟨[1], by decide⟩
          send := .error .peripheral }] := ⟨trivial, trivial⟩
    exact ⟨_, _, Machine.run_of_legal legal, by decide⟩

end XSDK.Bridge
