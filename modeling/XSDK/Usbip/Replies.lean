import Mathlib.Algebra.Ring.Nat
import XSDK.Usbip.Fields

/-! The packed structures of the wire, and the replies as lists of fields. -/
namespace XSDK.Usbip

open Library Library.Call Library.BigEndian

structure OpCommon where
  version : UInt16
  code : UInt16
  status : UInt32

structure OpInterface where
  bInterfaceClass : UInt8
  bInterfaceSubClass : UInt8
  bInterfaceProtocol : UInt8
  padding : UInt8

structure HeaderBasic where
  command : UInt32
  seqnum : UInt32
  devid : UInt32
  direction : UInt32
  ep : UInt32

structure HeaderCmdSubmit where
  basic : HeaderBasic
  transferFlags : UInt32
  transferBufferLength : UInt32
  startFrame : UInt32
  numberOfPackets : UInt32
  interval : UInt32
  setup : Vector UInt8 8

structure HeaderRetSubmit where
  basic : HeaderBasic
  status : UInt32
  actualLength : UInt32
  startFrame : UInt32
  numberOfPackets : UInt32
  errorCount : UInt32
  setup : Vector UInt8 8

structure HeaderCmdUnlink where
  basic : HeaderBasic
  unlinkSeqnum : UInt32
  padding : Vector UInt8 24

structure HeaderRetUnlink where
  basic : HeaderBasic
  status : UInt32
  padding : Vector UInt8 24

section Layouts

open Layout

def opCommon : Layout OpCommon := do
  let version ← u16
  let code ← u16
  let status ← u32
  return ⟨version, code, status⟩

def opDevice : Layout OpDevice := do
  let path ← array 256
  let busid ← array 32
  let busnum ← u32
  let devnum ← u32
  let speed ← u32
  let idVendor ← u16
  let idProduct ← u16
  let bcdDevice ← u16
  let bDeviceClass ← u8
  let bDeviceSubClass ← u8
  let bDeviceProtocol ← u8
  let bConfigurationValue ← u8
  let bNumConfigurations ← u8
  let bNumInterfaces ← u8
  return ⟨path, busid, busnum, devnum, speed, idVendor, idProduct, bcdDevice, bDeviceClass, bDeviceSubClass,
    bDeviceProtocol, bConfigurationValue, bNumConfigurations, bNumInterfaces⟩

def opInterface : Layout OpInterface := do
  let bInterfaceClass ← u8
  let bInterfaceSubClass ← u8
  let bInterfaceProtocol ← u8
  let padding ← u8
  return ⟨bInterfaceClass, bInterfaceSubClass, bInterfaceProtocol, padding⟩

def headerBasic : Layout HeaderBasic := do
  let command ← u32
  let seqnum ← u32
  let devid ← u32
  let direction ← u32
  let ep ← u32
  return ⟨command, seqnum, devid, direction, ep⟩

def headerCmdSubmit : Layout HeaderCmdSubmit := do
  let basic ← headerBasic
  let transferFlags ← u32
  let transferBufferLength ← u32
  let startFrame ← u32
  let numberOfPackets ← u32
  let interval ← u32
  let setup ← array 8
  return ⟨basic, transferFlags, transferBufferLength, startFrame, numberOfPackets, interval, setup⟩

def headerRetSubmit : Layout HeaderRetSubmit := do
  let basic ← headerBasic
  let status ← u32
  let actualLength ← u32
  let startFrame ← u32
  let numberOfPackets ← u32
  let errorCount ← u32
  let setup ← array 8
  return ⟨basic, status, actualLength, startFrame, numberOfPackets, errorCount, setup⟩

def headerCmdUnlink : Layout HeaderCmdUnlink := do
  let basic ← headerBasic
  let unlinkSeqnum ← u32
  let padding ← array 24
  return ⟨basic, unlinkSeqnum, padding⟩

def headerRetUnlink : Layout HeaderRetUnlink := do
  let basic ← headerBasic
  let status ← u32
  let padding ← array 24
  return ⟨basic, status, padding⟩

def devlistEntry : Layout (OpDevice × List OpInterface) := do
  let device ← opDevice
  let interfaces ← many opInterface device.bNumInterfaces.toNat
  return (device, interfaces)

def devlistReply : Layout (OpCommon × List (OpDevice × List OpInterface)) := do
  let common ← opCommon
  let count ← u32
  let entries ← many devlistEntry count.toNat
  return (common, entries)

/-- A device follows when the status says so. -/
def importReply : Layout (OpCommon × Option OpDevice) := do
  let common ← opCommon
  if common.status = opStatusOk then
    let device ← opDevice
    return (common, some device)
  else return (common, none)

end Layouts

/-! ### Replies -/

/-- What is handed to an encoder, with its pointers set where they are followed. -/
inductive Reply where
  | devlist (deviceCount : UInt32) (devices : Option (Vector OpDevice deviceCount.toNat))
      (set : 0 < deviceCount → devices.isSome)
  | importDevice (device : Option OpDevice) (status : UInt32) (set : status = opStatusOk → device.isSome)
  | submit (seqnum devid direction ep status actualLength dataLen : UInt32)
      (data : Option (Vector UInt8 dataLen.toNat))
      (set : 0 < dataLen → data.isSome)
  | unlink (seqnum devid direction ep status : UInt32)

def Reply.encode (bufLen : UInt32) : Reply → Encoder
  | devlist deviceCount devices _ => encodeDevlistReply bufLen deviceCount devices
  | importDevice device status _ => encodeImportReply bufLen device status
  | submit seqnum devid direction ep status actualLength dataLen data _ =>
    encodeRetSubmit bufLen seqnum devid direction ep status actualLength dataLen data
  | unlink seqnum devid direction ep status => encodeRetUnlink bufLen seqnum devid direction ep status

def Reply.length : Reply → Nat
  | devlist _ devices _ => 12 + ((given devices).map fun device => 312 + 4 * device.bNumInterfaces.toNat).sum
  | importDevice _ status _ => if status = opStatusOk then 8 + 312 else 8
  | submit _ _ _ _ _ _ dataLen _ _ => 48 + dataLen.toNat
  | unlink _ _ _ _ _ => 48

/-- The bytes hold the fields that were given, and the payload behind the header. -/
def Reply.Parses (bytes : List UInt8) : Reply → Prop
  | devlist _ devices _ => devlistReply bytes = some ((⟨protoVersion, opRepDevlist, opStatusOk⟩,
      (given devices).map fun device => (device, List.replicate device.bNumInterfaces.toNat ⟨0, 0, 0, 0⟩)), [])
  | importDevice device status _ => importReply bytes =
      some ((⟨protoVersion, opRepImport, status⟩, if status = opStatusOk then device else none), [])
  | submit seqnum devid direction ep status actualLength _ data _ => headerRetSubmit bytes =
      some (⟨⟨retSubmit, seqnum, devid, direction, ep⟩, status, actualLength, 0, 0, 0, .replicate 8 0⟩, given data)
  | unlink seqnum devid direction ep status => headerRetUnlink bytes =
      some (⟨⟨retUnlink, seqnum, devid, direction, ep⟩, status, .replicate 24 0⟩, [])

/-- The byte that the buffer has last been given at an index. -/
def load : List (Nat × UInt8) → Nat → Option UInt8
  | [], _ => none
  | (j, b) :: later, k => (load later k).or (if j = k then some b else none)

def opCommonFields (code : UInt16) (status : UInt32) : List Field := [.u16 protoVersion, .u16 code, .u32 status]

variable (device : OpDevice)

def deviceFields : List Field :=
  [.block device.path.toList 256 device.path.length_toList, .block device.busid.toList 32 device.busid.length_toList,
    .u32 device.busnum, .u32 device.devnum, .u32 device.speed, .u16 device.idVendor, .u16 device.idProduct,
    .u16 device.bcdDevice, .u8 device.bDeviceClass, .u8 device.bDeviceSubClass, .u8 device.bDeviceProtocol,
    .u8 device.bConfigurationValue, .u8 device.bNumConfigurations, .u8 device.bNumInterfaces]

def entryFields : List Field :=
  deviceFields device ++ [.zeros (device.bNumInterfaces.toUInt32 * opInterfaceSize)]

def payloadFields {len : UInt32} : Option (Vector UInt8 len.toNat) → List Field
  | none => []
  | some data => [.block data.toList len data.length_toList]

def Reply.fields : Reply → List Field
  | devlist deviceCount devices _ =>
    opCommonFields opRepDevlist opStatusOk ++ .u32 deviceCount :: (given devices).flatMap entryFields
  | importDevice device status _ =>
    opCommonFields opRepImport status ++ if status = opStatusOk then device.toList.flatMap deviceFields else []
  | submit seqnum devid direction ep status actualLength _ data _ =>
    [.u32 retSubmit, .u32 seqnum, .u32 devid, .u32 direction, .u32 ep, .u32 status, .u32 actualLength, .zeros 12,
      .zeros 8] ++ payloadFields data
  | unlink seqnum devid direction ep status =>
    [.u32 retUnlink, .u32 seqnum, .u32 devid, .u32 direction, .u32 ep, .u32 status, .zeros 24]

/-- What an encoder is for: it stays in the buffer, takes what fits, and writes a message that parses. -/
structure Reply.Exact (r : Reply) (bufLen bytesWritten : UInt32) : Prop where
  inside : ∀ store ∈ (r.encode bufLen ⟨[], 0, bytesWritten⟩).2.stores, store.1 < bufLen.toNat
  ok_iff : (r.encode bufLen ⟨[], 0, bytesWritten⟩).1 = .ok () ↔ r.length ≤ bufLen.toNat
  unchanged : (r.encode bufLen ⟨[], 0, bytesWritten⟩).1 ≠ .ok () →
    (r.encode bufLen ⟨[], 0, bytesWritten⟩).2.bytesWritten = bytesWritten
  written : (r.encode bufLen ⟨[], 0, bytesWritten⟩).1 = .ok () →
    (r.encode bufLen ⟨[], 0, bytesWritten⟩).2.bytesWritten.toNat = r.length ∧
    ∃ bytes, bytes.length = r.length ∧
      (∀ k, load (r.encode bufLen ⟨[], 0, bytesWritten⟩).2.stores k = bytes[k]?) ∧ r.Parses bytes

/-- A sum of the place and a length passes 2 ^ 32. -/
def Reply.Wraps (bufLen : UInt32) : Reply → Prop
  | devlist _ devices _ => Crosses bufLen 12 ((given devices).flatMap entryFields)
  | importDevice _ _ _ => False
  | submit _ _ _ _ _ _ dataLen _ _ => 48 ≤ bufLen.toNat ∧ 2 ^ 32 ≤ 48 + dataLen.toNat
  | unlink _ _ _ _ _ => False

section Bridge

variable {bufLen : UInt32}

theorem not_isNone {α : Type} {n : UInt32} {p : Option α} (set : 0 < n → p.isSome) : ¬(0 < n ∧ p.isNone) := by
  rintro ⟨some, none⟩
  have present := set some
  cases p with
  | none => cases present
  | some _ => cases none

theorem encodeOpCommon_eq (code : UInt16) (status : UInt32) :
    encodeOpCommon bufLen code status = writeAll bufLen (opCommonFields code status) := by
  simp only [opCommonFields, writeAll, bind_unit]
  rfl

theorem encodeDeviceBe_eq : encodeDeviceBe bufLen device = writeAll bufLen (deviceFields device) := by
  simp only [deviceFields, writeAll, bind_unit]
  rfl

theorem encodeDevices_eq (devices : List OpDevice) :
    encodeDevices bufLen devices = writeAll bufLen (devices.flatMap entryFields) := by
  induction devices with
  | nil => rfl
  | cons device rest ih =>
    rw [List.flatMap_cons, entryFields, List.append_assoc, writeAll_append, ← encodeDeviceBe_eq, encodeDevices, ih]
    rfl

theorem Reply.encode_eq (r : Reply) : r.encode bufLen = (writeAll bufLen r.fields >>= fun _ => setBytesWritten) := by
  cases r with
  | devlist deviceCount devices set =>
    rw [Reply.encode, encodeDevlistReply, reject_bind_neg _ (not_isNone set), Reply.fields, writeAll_append,
      Call.bind_assoc, writeAll,
      Call.bind_assoc, encodeOpCommon_eq, encodeDevices_eq]
    rfl
  | importDevice device status set =>
    rw [Reply.encode, encodeImportReply, Reply.fields, writeAll_append, Call.bind_assoc, encodeOpCommon_eq, onlyIf]
    by_cases ok : status = opStatusOk
    · obtain ⟨device, rfl⟩ := Option.isSome_iff_exists.mp (set ok)
      rw [if_pos ok, if_pos ok, encodeGiven, encodeDeviceBe_eq, Option.toList_some, List.flatMap_singleton]
    · rw [if_neg ok, if_neg ok]
      rfl
  | submit seqnum devid direction ep status actualLength dataLen data set =>
    have payload : writeAll bufLen (payloadFields data) =
        onlyIf (data.isSome ∧ 0 < dataLen) (writeBytes bufLen (given data) dataLen) := by
      cases data with
      | none => exact (if_neg fun h => absurd h.1 Bool.false_ne_true).symm
      | some data =>
        rw [payloadFields, writeAll, writeAll, bind_unit, onlyIf, Field.write]
        by_cases some : 0 < dataLen
        · exact (if_pos ⟨rfl, some⟩).symm
        · have empty : dataLen = 0 := UInt32.not_lt.mp some |> UInt32.le_zero_iff.mp
          rw [if_neg fun h => some h.2, writeBytes, if_pos empty]
    rw [Reply.encode, encodeRetSubmit, reject_bind_neg _ (not_isNone set), Reply.fields, writeAll_append,
      Call.bind_assoc, payload]
    simp only [writeAll, Call.bind_assoc]
    rfl
  | unlink seqnum devid direction ep status =>
    rw [Reply.encode, encodeRetUnlink, Reply.fields]
    simp only [writeAll, Call.bind_assoc]
    rfl

end Bridge

section Lengths

theorem toNat_interfaces (n : UInt8) : (n.toUInt32 * opInterfaceSize).toNat = 4 * n.toNat := by
  have bound := n.toNat_lt
  rw [UInt32.toNat_mul, UInt8.toNat_toUInt32]
  change _ * 4 % 2 ^ 32 = _
  omega

theorem length_deviceFields : (bytesOf (deviceFields device)).length = 312 := by
  simp [bytesOf, deviceFields, Field.bytes, bytes16, bytes32]

theorem length_entryFields : (bytesOf (entryFields device)).length = 312 + 4 * device.bNumInterfaces.toNat := by
  rw [entryFields, bytesOf_append, List.length_append, length_deviceFields, ← toNat_interfaces]
  simp [bytesOf, Field.zeros, Field.bytes]

theorem length_entries (devices : List OpDevice) : (bytesOf (devices.flatMap entryFields)).length =
    (devices.map fun device => 312 + 4 * device.bNumInterfaces.toNat).sum := by
  induction devices with
  | nil => rfl
  | cons device rest ih =>
    rw [List.flatMap_cons, bytesOf_append, List.length_append, length_entryFields, ih, List.map_cons, List.sum_cons]

theorem Reply.length_payload {dataLen : UInt32} {data : Option (Vector UInt8 dataLen.toNat)}
    (set : 0 < dataLen → data.isSome) : (bytesOf (payloadFields data)).length = dataLen.toNat := by
  cases data with
  | none =>
    by_contra some
    exact absurd (set (UInt32.pos_iff_ne_zero.mpr fun zero => some (zero ▸ rfl))) Bool.false_ne_true
  | some data => exact (congrArg List.length (List.append_nil _)).trans data.length_toList

theorem Reply.length_fields (r : Reply) : (bytesOf r.fields).length = r.length := by
  cases r with
  | devlist deviceCount devices set =>
    rw [Reply.fields, bytesOf_append, List.length_append, length_bytesOf_cons, length_entries, ← Nat.add_assoc]
    rfl
  | importDevice device status set =>
    rw [Reply.fields, bytesOf_append, List.length_append, Reply.length]
    by_cases ok : status = opStatusOk
    · obtain ⟨device, rfl⟩ := Option.isSome_iff_exists.mp (set ok)
      rw [if_pos ok, if_pos ok, Option.toList_some, List.flatMap_singleton, length_deviceFields]
      rfl
    · rw [if_neg ok, if_neg ok]
      rfl
  | submit seqnum devid direction ep status actualLength dataLen data set =>
    rw [Reply.fields, bytesOf_append, List.length_append, Reply.length, Reply.length_payload set]
    rfl
  | unlink seqnum devid direction ep status => rfl

theorem Reply.crosses_iff (r : Reply) {bufLen : UInt32} : Crosses bufLen 0 r.fields ↔ r.Wraps bufLen := by
  cases r with
  | devlist deviceCount devices set =>
    have header : ¬Crosses bufLen 0 (opCommonFields opRepDevlist opStatusOk) := not_crosses (by decide)
    have count : ¬(8 ≤ bufLen.toNat ∧ false = false ∧ 2 ^ 32 ≤ 12) := fun h => absurd h.2.2 (by decide)
    rw [Reply.fields, crosses_append, or_iff_right header]
    exact or_iff_right count
  | importDevice device status set =>
    refine ⟨fun crosses => not_crosses ?_ crosses, False.elim⟩
    rw [Reply.length_fields, Reply.length]
    split <;> decide
  | submit seqnum devid direction ep status actualLength dataLen data set =>
    rw [Reply.fields, crosses_append, or_iff_right (not_crosses (show 0 + 48 < 2 ^ 32 by decide))]
    have size := Reply.length_payload set
    cases data with
    | none =>
      refine ⟨False.elim, fun wraps => ?_⟩
      have none : dataLen.toNat = 0 := size.symm
      have high : 2 ^ 32 ≤ 48 + dataLen.toNat := wraps.2
      omega
    | some data =>
      rw [payloadFields, Crosses, Crosses, or_false, Reply.Wraps, Field.bytes, data.length_toList]
      exact and_congr_right fun _ => and_iff_right rfl
  | unlink seqnum devid direction ep status => exact ⟨not_crosses (show 0 + 48 < 2 ^ 32 by decide), False.elim⟩

end Lengths

end XSDK.Usbip
