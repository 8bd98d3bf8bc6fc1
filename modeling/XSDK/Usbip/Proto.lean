import XSDK.Library.BigEndian
import XSDK.Library.Call
import XSDK.Usbip.Urb

/-! The codec of the wire messages. The stores of an encoder are kept with their indices, which are 32-bit
sums like the checks in front of them. -/
namespace XSDK.Usbip

open Library Library.Call Library.BigEndian

inductive ProtoError
  | nullPointer
  | invalidArgument
  | protoVersion
  | protoOpcode
  | bufferTooSmall
  deriving DecidableEq, Repr

def protoVersion : UInt16 := 0x0111
def opRepDevlist : UInt16 := 0x0005
def opRepImport : UInt16 := 0x0003
def opStatusOk : UInt32 := 0
def cmdSubmit : UInt32 := 1
def cmdUnlink : UInt32 := 2
def retSubmit : UInt32 := 3
def retUnlink : UInt32 := 4
def protoDataHeaderSize : UInt32 := 48
def opInterfaceSize : UInt32 := 4

/-- The packed entry of a device. -/
structure OpDevice where
  path : Vector UInt8 256
  busid : Vector UInt8 32
  busnum : UInt32
  devnum : UInt32
  speed : UInt32
  idVendor : UInt16
  idProduct : UInt16
  bcdDevice : UInt16
  bDeviceClass : UInt8
  bDeviceSubClass : UInt8
  bDeviceProtocol : UInt8
  bConfigurationValue : UInt8
  bNumConfigurations : UInt8
  bNumInterfaces : UInt8

structure CmdUnlink where
  seqnum : UInt32
  devid : UInt32
  direction : UInt32
  ep : UInt32
  unlinkSeqnum : UInt32

/-! ### Writing -/

/-- The stores into the buffer, the place, and the caller's count. -/
structure Output where
  stores : List (Nat × UInt8)
  pos : UInt32
  bytesWritten : UInt32

abbrev Encoder : Type := Call Output ProtoError Unit

def copied : Nat → List UInt8 → List (Nat × UInt8)
  | _, [] => []
  | k, b :: rest => (k, b) :: copied (k + 1) rest

def Output.write (o : Output) (stores : List (Nat × UInt8)) (len : UInt32) : Output :=
  { o with stores := o.stores ++ stores, pos := o.pos + len }

variable (bufLen : UInt32)

def writeU8 (val : UInt8) : Encoder := do
  let pos ← read Output.pos
  reject (bufLen ≤ pos) .bufferTooSmall
  modify fun o => o.write [(pos.toNat, val)] 1

def writeU16Be (val : UInt16) : Encoder := do
  let pos ← read Output.pos
  reject (bufLen < pos + 2) .bufferTooSmall
  modify fun o => o.write [(pos.toNat, (val >>> 8).toUInt8), ((pos + 1).toNat, val.toUInt8)] 2

def writeU32Be (val : UInt32) : Encoder := do
  let pos ← read Output.pos
  reject (bufLen < pos + 4) .bufferTooSmall
  modify fun o => o.write [(pos.toNat, (val >>> 24).toUInt8), ((pos + 1).toNat, (val >>> 16).toUInt8),
    ((pos + 2).toNat, (val >>> 8).toUInt8), ((pos + 3).toNat, val.toUInt8)] 4

def writeBytes (data : List UInt8) (len : UInt32) : Encoder :=
  if len = 0 then pure ()
  else do
    let pos ← read Output.pos
    reject (bufLen < pos + len) .bufferTooSmall
    modify fun o => o.write (copied pos.toNat data) len

def writeZeros (len : UInt32) : Encoder := writeBytes bufLen (List.replicate len.toNat 0) len

def encodeOpCommon (code : UInt16) (status : UInt32) : Encoder := do
  writeU16Be bufLen protoVersion
  writeU16Be bufLen code
  writeU32Be bufLen status

def encodeDeviceBe (device : OpDevice) : Encoder := do
  writeBytes bufLen device.path.toList 256
  writeBytes bufLen device.busid.toList 32
  writeU32Be bufLen device.busnum
  writeU32Be bufLen device.devnum
  writeU32Be bufLen device.speed
  writeU16Be bufLen device.idVendor
  writeU16Be bufLen device.idProduct
  writeU16Be bufLen device.bcdDevice
  writeU8 bufLen device.bDeviceClass
  writeU8 bufLen device.bDeviceSubClass
  writeU8 bufLen device.bDeviceProtocol
  writeU8 bufLen device.bConfigurationValue
  writeU8 bufLen device.bNumConfigurations
  writeU8 bufLen device.bNumInterfaces

/-- The devices, each followed by zeros for its interfaces. -/
def encodeDevices : List OpDevice → Encoder
  | [] => pure ()
  | device :: rest => do
    encodeDeviceBe bufLen device
    writeZeros bufLen (device.bNumInterfaces.toUInt32 * opInterfaceSize)
    encodeDevices rest

def setBytesWritten : Encoder := modify fun o => { o with bytesWritten := o.pos }

def given {α : Type} {n : Nat} : Option (Vector α n) → List α
  | none => []
  | some items => items.toList

def encodeDevlistReply (deviceCount : UInt32) (devices : Option (Vector OpDevice deviceCount.toNat)) : Encoder := do
  reject (0 < deviceCount ∧ devices.isNone) .nullPointer
  encodeOpCommon bufLen opRepDevlist opStatusOk
  writeU32Be bufLen deviceCount
  encodeDevices bufLen (given devices)
  setBytesWritten

def encodeGiven : Option OpDevice → Encoder
  | none => fail .nullPointer
  | some device => encodeDeviceBe bufLen device

def encodeImportReply (device : Option OpDevice) (status : UInt32) : Encoder := do
  encodeOpCommon bufLen opRepImport status
  onlyIf (status = opStatusOk) (encodeGiven bufLen device)
  setBytesWritten

def encodeRetSubmit (seqnum devid direction ep status actualLength dataLen : UInt32)
    (data : Option (Vector UInt8 dataLen.toNat)) : Encoder := do
  reject (0 < dataLen ∧ data.isNone) .nullPointer
  writeU32Be bufLen retSubmit
  writeU32Be bufLen seqnum
  writeU32Be bufLen devid
  writeU32Be bufLen direction
  writeU32Be bufLen ep
  writeU32Be bufLen status
  writeU32Be bufLen actualLength
  writeZeros bufLen 12
  writeZeros bufLen 8
  onlyIf (data.isSome ∧ 0 < dataLen) (writeBytes bufLen (given data) dataLen)
  setBytesWritten

def encodeRetUnlink (seqnum devid direction ep status : UInt32) : Encoder := do
  writeU32Be bufLen retUnlink
  writeU32Be bufLen seqnum
  writeU32Be bufLen devid
  writeU32Be bufLen direction
  writeU32Be bufLen ep
  writeU32Be bufLen status
  writeZeros bufLen 24
  setBytesWritten

/-! ### Reading -/

abbrev Decoder (α : Type) : Type := Call UInt32 ProtoError α

variable (buf : Nat → UInt8)

def readU32Be : Decoder UInt32 := do
  let pos ← read id
  reject (bufLen < pos + 4) .invalidArgument
  modify fun _ => pos + 4
  return ((buf pos.toNat).toUInt32 <<< 24) ||| ((buf (pos + 1).toNat).toUInt32 <<< 16) |||
    ((buf (pos + 2).toNat).toUInt32 <<< 8) ||| (buf (pos + 3).toNat).toUInt32

def readBytes (n : Nat) : Decoder (Vector UInt8 n) := do
  let pos ← read id
  reject (n ≠ 0 ∧ bufLen < pos + UInt32.ofNat n) .invalidArgument
  modify fun _ => pos + UInt32.ofNat n
  return .ofFn fun k => buf (pos.toNat + k)

/-- The fields are written one after the other; with a whole header none of the reads fails. -/
def decodeCmdSubmit : Decoder CmdSubmit := do
  reject (bufLen < protoDataHeaderSize) .invalidArgument
  let command ← readU32Be bufLen buf
  reject (command ≠ cmdSubmit) .protoOpcode
  let seqnum ← readU32Be bufLen buf
  let devid ← readU32Be bufLen buf
  let direction ← readU32Be bufLen buf
  let ep ← readU32Be bufLen buf
  let transferFlags ← readU32Be bufLen buf
  let transferBufferLength ← readU32Be bufLen buf
  modify fun pos => pos + 8
  let pos ← read id
  reject (bufLen < pos) .invalidArgument
  let interval ← readU32Be bufLen buf
  let setup ← readBytes bufLen buf 8
  return ⟨seqnum, devid, direction, ep, transferFlags, transferBufferLength, interval, setup⟩

def decodeCmdUnlink : Decoder CmdUnlink := do
  reject (bufLen < protoDataHeaderSize) .invalidArgument
  let command ← readU32Be bufLen buf
  reject (command ≠ cmdUnlink) .protoOpcode
  let seqnum ← readU32Be bufLen buf
  let devid ← readU32Be bufLen buf
  let direction ← readU32Be bufLen buf
  let ep ← readU32Be bufLen buf
  let unlinkSeqnum ← readU32Be bufLen buf
  return ⟨seqnum, devid, direction, ep, unlinkSeqnum⟩

end XSDK.Usbip
