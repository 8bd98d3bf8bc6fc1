import XSDK.Library.Ring
import XSDK.Library.Runs

/-! The UART bridge: a ring in each direction, filled and drained by polling. -/
namespace XSDK.Bridge

open Library

abbrev Bytes : Type := List UInt8

inductive Error
  | nullPointer
  | invalidState
  | invalidArgument
  | queueFull
  | peripheral
  deriving DecidableEq, Repr

def uartQueueBytes : Nat := 512
def uartChunkBytes : Nat := 64

/-- A ring of bytes with its two positions. -/
structure UartRing where
  buffer : Nat → UInt8
  head : Nat
  tail : Nat
  head_lt : head < uartQueueBytes
  tail_lt : tail < uartQueueBytes

namespace UartRing

def empty : UartRing := ⟨fun _ => 0, 0, 0, by decide, by decide⟩

variable (r : UartRing)

def available : Nat := if r.head ≤ r.tail then r.tail - r.head else uartQueueBytes - r.head + r.tail

def freeSpace : Nat := uartQueueBytes - 1 - r.available

def put (b : UInt8) : UartRing where
  buffer := Ring.store r.buffer r.tail b
  head := r.head
  tail := (r.tail + 1) % uartQueueBytes
  head_lt := r.head_lt
  tail_lt := Ring.next_lt r.tail_lt

def drop : UartRing where
  buffer := r.buffer
  head := (r.head + 1) % uartQueueBytes
  tail := r.tail
  head_lt := Ring.next_lt r.head_lt
  tail_lt := r.tail_lt

def enqueue (data : Bytes) : Except Error Unit × UartRing :=
  if r.freeSpace < data.length then (.error .queueFull, r) else (.ok (), data.foldl put r)

def takeBytes : Nat → UartRing → Bytes × UartRing
  | 0, r => ([], r)
  | n + 1, r => (r.buffer r.head :: (takeBytes n r.drop).1, (takeBytes n r.drop).2)

def dequeue (maxLen : Nat) : Bytes × UartRing :=
  takeBytes (if r.available < maxLen then r.available else maxLen) r

end UartRing

/-- The bridge, with the bytes that were accepted from USB, written to the UART, read from it and
sent on USB. -/
structure Uart where
  usbToUart : UartRing
  uartToUsb : UartRing
  isDtrActive : Bool
  accepted : Bytes
  written : Bytes
  received : Bytes
  sent : Bytes

def Uart.init : Uart := ⟨.empty, .empty, false, [], [], [], []⟩

/-- What the peripheral and the USB port answer in a poll; is_rx_ready may be missing. -/
structure PollAnswers where
  write : Except Error Unit
  isRxReady : Option Bool
  read : Except Error { rx : Bytes // rx.length ≤ uartChunkBytes }
  send : Except Error Unit

namespace Uart

variable (u : Uart)

def onUsbReceive (data : Bytes) : Except Error Unit × Uart :=
  if u.isDtrActive then
    match u.usbToUart.enqueue data with
    | (.ok (), ring) => (.ok (), { u with usbToUart := ring, accepted := u.accepted ++ data })
    | (.error code, ring) => (.error code, { u with usbToUart := ring })
  else (.ok (), u)

def onControlLineState (dtr : Bool) (_rts : Bool) :
    Except Error Unit × Uart := (.ok (), { u with isDtrActive := dtr })

variable (answers : PollAnswers)

def flush : Except Error Unit × Uart :=
  match u.uartToUsb.dequeue uartChunkBytes with
  | (tx, ring) =>
    if tx = [] then (.ok (), { u with uartToUsb := ring })
    else
      match answers.send with
      | .ok () => (.ok (), { u with uartToUsb := ring, sent := u.sent ++ tx })
      | .error code => (.error code, { u with uartToUsb := ring })

def collect : Except Error Unit × Uart :=
  if answers.isRxReady = some true then
    match answers.read with
    | .error code => (.error code, u)
    | .ok rx =>
      if rx.val = [] then flush u answers
      else
        match u.uartToUsb.enqueue rx.val with
        | (.ok (), ring) => flush { u with uartToUsb := ring, received := u.received ++ rx.val } answers
        | (.error code, ring) => (.error code, { u with uartToUsb := ring, received := u.received ++ rx.val })
  else flush u answers

def poll : Except Error Unit × Uart :=
  match u.usbToUart.dequeue uartChunkBytes with
  | (tx, ring) =>
    if tx = [] then collect { u with usbToUart := ring } answers
    else
      match answers.write with
      | .ok () => collect { u with usbToUart := ring, written := u.written ++ tx } answers
      | .error code => (.error code, { u with usbToUart := ring })

end Uart

inductive UartInput
  | onUsbReceive (data : Bytes)
  | onControlLineState (dtr rts : Bool)
  | poll (answers : PollAnswers)

def uartMachine : Machine Uart UartInput (Except Error Unit) where
  allowed _ _ := True
  step u
    | .onUsbReceive data => ((u.onUsbReceive data).2, (u.onUsbReceive data).1)
    | .onControlLineState dtr rts => ((u.onControlLineState dtr rts).2, (u.onControlLineState dtr rts).1)
    | .poll answers => ((u.poll answers).2, (u.poll answers).1)

end XSDK.Bridge
