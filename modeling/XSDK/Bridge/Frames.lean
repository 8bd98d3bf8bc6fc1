import XSDK.Bridge.Uart
import XSDK.Library.Call

/-! The binary channels' frames, and what the handlers of a frame may do: hand buffers to a
peripheral and send a response. -/
namespace XSDK.Bridge

open Library

abbrev Word32 : Type := BitVec 32

inductive FrameError
  | parseError
  | frameTooLarge
  | send (code : Nat)
  deriving DecidableEq, Repr

def maxPayloadBytes : Nat := 4096
def frameHeaderBytes : Nat := 8
def respBufBytes : Nat := maxPayloadBytes + frameHeaderBytes
def statusOk : UInt8 := 0x00
def statusError : UInt8 := 0x01

inductive Channel
  | i2c
  | spi
  | qspi
  | gpio
  | adc
  deriving DecidableEq, Repr

def Channel.code : Channel → UInt8
  | .i2c => 0x01
  | .spi => 0x02
  | .qspi => 0x04
  | .gpio => 0x06
  | .adc => 0x08

/- Fields of a byte string, the low byte first. -/

def byteAt (b : Bytes) (i : Nat) : UInt8 := b.getD i 0

def le16 (b : Bytes) (i : Nat) : Nat := (byteAt b i).toNat + 256 * (byteAt b (i + 1)).toNat

def le32 (b : Bytes) (i : Nat) : Word32 := BitVec.ofNat 32 (le16 b i + 65536 * le16 b (i + 2))

def le16Bytes (n : Nat) : Bytes := [UInt8.ofNat n, UInt8.ofNat (n / 256)]

def le32Bytes (w : Word32) : Bytes := le16Bytes w.toNat ++ le16Bytes (w.toNat / 65536)

structure FrameCmd where
  channel : UInt8
  cmd : UInt8
  length : Nat
  seq : Word32
  deriving DecidableEq, Repr

def parseFrame (buf : Bytes) : Except FrameError (FrameCmd × Bytes) :=
  if buf.length < frameHeaderBytes then .error .parseError
  else
    let cmd : FrameCmd := ⟨byteAt buf 0, byteAt buf 1, le16 buf 2, le32 buf 4⟩
    if buf.length < frameHeaderBytes + cmd.length then .error .parseError
    else if maxPayloadBytes < cmd.length then .error .frameTooLarge
    else .ok (cmd, (buf.drop frameHeaderBytes).take cmd.length)

def frameResp (channel status : UInt8) (seq : Word32) (data : Bytes) : Bytes :=
  [channel, status] ++ le16Bytes data.length ++ le32Bytes seq ++ data

def buildResponse (respBufLen : Nat) (channel status : UInt8) (seq : Word32) (data : Bytes) : Option Bytes :=
  if respBufLen < frameHeaderBytes + data.length then none else some (frameResp channel status seq data)

/-- What a pointer of a handler points into: the payload it handles, the channel's response
buffer, or a variable of its own. -/
inductive Area
  | payload
  | respBuf
  | own (size : Nat)
  deriving DecidableEq, Repr

/-- A pointer, as an offset into its area, with the length handed along. -/
structure Span where
  area : Area
  offset : Nat
  length : Nat
  deriving DecidableEq, Repr

/-- The peripheral operations, with the buffers they are given. -/
inductive Op
  | i2cSetSpeed (hz : Word32)
  | i2cWrite (addr : UInt8) (data : Span) (noStop : Bool)
  | i2cRead (addr : Nat) (data : Span)
  | i2cWriteRead (addr : UInt8) (wdata rdata : Span)
  | spiSetMode (cpol cpha : UInt8)
  | spiSetSpeed (hz : Word32)
  | spiCsAssert (csIdx : UInt8)
  | spiCsDeassert (csIdx : UInt8)
  | spiTransfer (mosi miso : Span)
  | qspiSetSpeed (hz : Word32)
  | qspiTransfer (mode dummyCycles : UInt8) (cmd addr : Word32) (txData : Option Span) (rxData : Span)
  | adcSetResolution (bits : UInt8)
  | adcSetReference (reference : UInt8)
  | adcSetSampleRate (samplesPerSec : Word32)
  | adcReadSingle (channel : Word32) (result : Span)
  | adcReadMulti (channelMask : Word32) (results : Span)
  | gpioSetDirection (port pin : Word32) (direction : UInt8)
  | gpioWritePin (port pin : Word32) (value : UInt8)
  | gpioReadPin (port pin : Word32) (value : Span)
  | gpioSetPull (port pin : Word32) (pull : UInt8)
  | gpioTogglePin (port pin : Word32)
  deriving DecidableEq, Repr

namespace Op

def sends : Op → List Span
  | i2cWrite _ data _ => [data]
  | i2cWriteRead _ wdata _ => [wdata]
  | spiTransfer mosi _ => [mosi]
  | qspiTransfer _ _ _ _ txData _ => txData.toList
  | _ => []

def receives : Op → List Span
  | i2cRead _ data => [data]
  | i2cWriteRead _ _ rdata => [rdata]
  | spiTransfer _ miso => [miso]
  | qspiTransfer _ _ _ _ _ rxData => [rxData]
  | adcReadSingle _ result => [result]
  | adcReadMulti _ results => [results]
  | gpioReadPin _ _ value => [value]
  | _ => []

end Op

/-- Whether the operation succeeded, and what its receive buffer holds afterwards; words
are given by their bytes, the low one first. -/
structure Answer where
  ok : Bool
  bytes : Nat → UInt8

/-- The peripherals and the USB side. -/
structure Env (σ : Type) where
  op : Op → σ → Answer × σ
  send : Bytes → σ → Except Nat Unit × σ

inductive Event
  | op (op : Op) (ok : Bool)
  | sent (bytes : Bytes)
  deriving DecidableEq, Repr

structure World (σ : Type) where
  outside : σ
  resolutionBits : UInt8
  log : List Event

abbrev Handler (σ α : Type) : Type := Call (World σ) FrameError α

variable {σ : Type} (e : Env σ)

def ask (op : Op) : Handler σ Answer := fun s =>
  (.ok (e.op op s.outside).1,
    { s with outside := (e.op op s.outside).2, log := s.log ++ [.op op (e.op op s.outside).1.ok] })

def send (bytes : Bytes) : Handler σ Unit := fun s =>
  ((e.send bytes s.outside).1.mapError .send,
    { s with outside := (e.send bytes s.outside).2, log := s.log ++ [.sent bytes] })

variable (channel : Channel)

def respond (status : UInt8) (seq : Word32) (data : Bytes) : Handler σ Unit :=
  match buildResponse respBufBytes channel.code status seq data with
  | none => Call.fail .frameTooLarge
  | some bytes => send e bytes

def sendStatusResponse (status : UInt8) (seq : Word32) : Handler σ Unit :=
  respond e channel status seq []

def statusOf (answer : Answer) : UInt8 := if answer.ok then statusOk else statusError

def report (seq : Word32) (op : Op) : Handler σ Unit :=
  ask e op >>= fun answer => sendStatusResponse e channel (statusOf answer) seq

/-- An operation whose data is returned when it succeeds. -/
def fetch (seq : Word32) (op : Op) (length : Nat) : Handler σ Unit :=
  ask e op >>= fun answer =>
    if answer.ok then respond e channel statusOk seq ((List.range length).map answer.bytes)
    else sendStatusResponse e channel statusError seq

def payloadSpan (offset length : Nat) : Span := ⟨.payload, offset, length⟩

def respSpan (length : Nat) : Span := ⟨.respBuf, frameHeaderBytes, length⟩

end XSDK.Bridge
