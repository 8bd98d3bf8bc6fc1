import XSDK.Usbip.Replies

/-! What is written parses as what was given, and a command is decoded into its fields. -/
namespace XSDK.Usbip

open Library Library.Call Library.BigEndian
open List (append_nil)

section Round

open Layout

theorem reads_opCommon (code : UInt16) (status : UInt32) :
    Reads opCommon (bytesOf (opCommonFields code status)) ⟨protoVersion, code, status⟩ :=
  (reads_u16 _).bind ((reads_u16 _).bind ((reads_u32 _).bind (.pure _)))

theorem reads_opDevice (device : OpDevice) : Reads opDevice (bytesOf (deviceFields device)) device :=
  (reads_array _).bind <| (reads_array _).bind <| (reads_u32 _).bind <| (reads_u32 _).bind <| (reads_u32 _).bind <|
    (reads_u16 _).bind <| (reads_u16 _).bind <| (reads_u16 _).bind <| (reads_u8 _).bind <| (reads_u8 _).bind <|
    (reads_u8 _).bind <| (reads_u8 _).bind <| (reads_u8 _).bind <| (reads_u8 _).bind (.pure _)

theorem reads_opInterface : Reads opInterface [0, 0, 0, 0] ⟨0, 0, 0, 0⟩ :=
  (reads_u8 0).bind <| (reads_u8 0).bind <| (reads_u8 0).bind <| (reads_u8 0).bind (.pure _)

theorem reads_interfaces (n : UInt8) :
    Reads (many opInterface n.toNat) (Field.zeros (n.toUInt32 * opInterfaceSize)).bytes
      (List.replicate n.toNat ⟨0, 0, 0, 0⟩) := by
  have each : ∀ a ∈ List.replicate n.toNat (⟨0, 0, 0, 0⟩ : OpInterface), Reads opInterface [0, 0, 0, 0] a := by
    intro a mem
    rw [List.eq_of_mem_replicate mem]
    exact reads_opInterface
  have all := @reads_many _ _ (fun _ => [0, 0, 0, 0]) _ each
  have zeros (k : Nat) : (List.replicate k (⟨0, 0, 0, 0⟩ : OpInterface)).flatMap
      (fun _ => ([0, 0, 0, 0] : List UInt8)) =
      List.replicate (4 * k) 0 := by
    induction k with
    | zero => rfl
    | succ k ih =>
      rw [List.replicate_succ, List.flatMap_cons, ih, Nat.mul_succ, Nat.add_comm, List.replicate_add]
      rfl
  rw [List.length_replicate, zeros] at all
  rw [Field.zeros, Field.bytes, toNat_interfaces]
  exact all

theorem reads_devlistEntry (device : OpDevice) : Reads devlistEntry (bytesOf (entryFields device))
    (device, List.replicate device.bNumInterfaces.toNat ⟨0, 0, 0, 0⟩) := by
  rw [entryFields, bytesOf_append]
  exact (reads_opDevice device).bind ((reads_interfaces device.bNumInterfaces).bind (.pure _))

theorem bytesOf_flatMap (devices : List OpDevice) :
    bytesOf (devices.flatMap entryFields) = devices.flatMap fun device => bytesOf (entryFields device) :=
  List.flatMap_assoc

theorem reads_devlist (deviceCount : UInt32) (devices : List OpDevice) (count : devices.length = deviceCount.toNat) :
    Reads devlistReply
      (bytesOf (opCommonFields opRepDevlist opStatusOk ++ .u32 deviceCount :: devices.flatMap entryFields))
      (⟨protoVersion, opRepDevlist, opStatusOk⟩,
        devices.map fun device => (device, List.replicate device.bNumInterfaces.toNat ⟨0, 0, 0, 0⟩)) := by
  have entries : Reads (many devlistEntry deviceCount.toNat) (bytesOf (devices.flatMap entryFields))
      (devices.map fun device => (device, List.replicate device.bNumInterfaces.toNat ⟨0, 0, 0, 0⟩)) := by
    have each : ∀ a ∈ devices.map fun device =>
        (device, List.replicate device.bNumInterfaces.toNat (⟨0, 0, 0, 0⟩ : OpInterface)),
        Reads devlistEntry (bytesOf (entryFields a.1)) a := by
      intro a mem
      obtain ⟨device, -, rfl⟩ := List.mem_map.mp mem
      exact reads_devlistEntry device
    have all := reads_many each
    rwa [List.length_map, count, List.flatMap_map, ← bytesOf_flatMap] at all
  rw [bytesOf_append, bytesOf_cons]
  have whole : Reads devlistReply (bytesOf (opCommonFields opRepDevlist opStatusOk) ++
      (bytes32 deviceCount ++ (bytesOf (devices.flatMap entryFields) ++ []))) _ :=
    (reads_opCommon opRepDevlist opStatusOk).bind ((reads_u32 deviceCount).bind (entries.bind (.pure _)))
  rwa [append_nil] at whole

theorem reads_import (device : Option OpDevice) (status : UInt32) (set : status = opStatusOk → device.isSome) :
    Reads importReply (bytesOf (Reply.importDevice device status set).fields)
      (⟨protoVersion, opRepImport, status⟩, if status = opStatusOk then device else none) := by
  rw [Reply.fields, bytesOf_append]
  refine (reads_opCommon opRepImport status).bind ?_
  change Reads (if status = opStatusOk then _ else _) _ _
  by_cases ok : status = opStatusOk
  · obtain ⟨device, rfl⟩ := Option.isSome_iff_exists.mp (set ok)
    rw [if_pos ok, if_pos ok, if_pos ok, Option.toList_some, List.flatMap_singleton, ← append_nil (bytesOf _)]
    exact (reads_opDevice device).bind (.pure _)
  · rw [if_neg ok, if_neg ok, if_neg ok]
    exact .pure _

theorem reads_basic (command seqnum devid direction ep : UInt32) :
    Reads headerBasic (bytesOf [.u32 command, .u32 seqnum, .u32 devid, .u32 direction, .u32 ep])
      ⟨command, seqnum, devid, direction, ep⟩ :=
  (reads_u32 _).bind <| (reads_u32 _).bind <| (reads_u32 _).bind <| (reads_u32 _).bind <| (reads_u32 _).bind (.pure _)

theorem reads_zeros (n : Nat) : Reads (array n) (List.replicate n 0) (.replicate n 0) := by
  have all := reads_array (Vector.replicate n (0 : UInt8))
  rwa [Vector.toList_replicate] at all

theorem reads_retUnlink (seqnum devid direction ep status : UInt32) :
    Reads headerRetUnlink (bytesOf (Reply.unlink seqnum devid direction ep status).fields)
      ⟨⟨retUnlink, seqnum, devid, direction, ep⟩, status, .replicate 24 0⟩ :=
  (reads_basic _ _ _ _ _).bind ((reads_u32 status).bind ((reads_zeros 24).bind (.pure _)))

theorem reads_retSubmit (seqnum devid direction ep status actualLength : UInt32) :
    Reads headerRetSubmit (bytesOf [.u32 retSubmit, .u32 seqnum, .u32 devid, .u32 direction, .u32 ep, .u32 status,
        .u32 actualLength, .zeros 12, .zeros 8])
      ⟨⟨retSubmit, seqnum, devid, direction, ep⟩, status, actualLength, 0, 0, 0, .replicate 8 0⟩ :=
  (reads_basic _ _ _ _ _).bind <| (reads_u32 status).bind <| (reads_u32 actualLength).bind <| (reads_u32 0).bind <|
    (reads_u32 0).bind <| (reads_u32 0).bind <| (reads_zeros 8).bind (.pure _)

theorem length_given {α : Type} {n : UInt32} {items : Option (Vector α n.toNat)} (set : 0 < n → items.isSome) :
    (given items).length = n.toNat := by
  cases items with
  | none =>
    by_contra some
    exact absurd (set (UInt32.pos_iff_ne_zero.mpr fun zero => some (zero ▸ rfl))) Bool.false_ne_true
  | some items => exact items.length_toList

theorem bytesOf_payload {len : UInt32} (data : Option (Vector UInt8 len.toNat)) :
    bytesOf (payloadFields data) = given data := by
  cases data with
  | none => rfl
  | some data => exact append_nil _

theorem Reply.parses_fields (r : Reply) : r.Parses (bytesOf r.fields) := by
  cases r with
  | devlist deviceCount devices set =>
    have whole := reads_devlist deviceCount (given devices) (length_given set) []
    rwa [append_nil] at whole
  | importDevice device status set =>
    have whole := reads_import device status set []
    rwa [append_nil] at whole
  | submit seqnum devid direction ep status actualLength dataLen data set =>
    rw [Reply.fields, bytesOf_append, bytesOf_payload]
    exact reads_retSubmit seqnum devid direction ep status actualLength _
  | unlink seqnum devid direction ep status =>
    have whole := reads_retUnlink seqnum devid direction ep status []
    rwa [append_nil] at whole

end Round

section Exact

variable {bufLen : UInt32}

theorem load_copied (k : Nat) (data : List UInt8) (i : Nat) :
    load (copied k data) i = if i < k then none else data[i - k]? := by
  induction data generalizing k with
  | nil => exact (ite_self none).symm
  | cons b data ih =>
    rw [copied, load, ih]
    rcases Nat.lt_trichotomy i k with before | rfl | behind
    · rw [if_pos before, if_pos (by omega), if_neg (by omega)]
      rfl
    · rw [if_neg (Nat.lt_irrefl i), if_pos (Nat.lt_succ_self i), if_pos rfl, Nat.sub_self]
      rfl
    · have shift : i - k = i - (k + 1) + 1 := by omega
      rw [if_neg (by omega), if_neg (by omega), if_neg (by omega), Option.or_none, shift, List.getElem?_cons_succ]

theorem Reply.exact_of_not_wraps (r : Reply) (bytesWritten : UInt32) (apart : ¬r.Wraps bufLen) :
    r.Exact bufLen bytesWritten := by
  have apart : ¬Crosses bufLen (Output.pos ⟨[], 0, bytesWritten⟩).toNat r.fields := mt r.crosses_iff.mp apart
  have start : (Output.pos ⟨[], 0, bytesWritten⟩).toNat ≤ bufLen.toNat := Nat.zero_le _
  obtain ⟨done, o', written, below, ended⟩ := writeAll_exact start apart
  have stores : o'.stores = copied 0 done := written.stores
  have place : o'.pos.toNat = done.length := written.pos.trans (Nat.zero_add _)
  have inside : ∀ store ∈ o'.stores, store.1 < bufLen.toNat := by
    intro store mem
    rw [stores] at mem
    have high := lt_of_mem_copied mem
    omega
  rcases ended with ⟨run, rfl⟩ | ⟨run, short⟩
  · have whole : r.encode bufLen ⟨[], 0, bytesWritten⟩ = (.ok (), { o' with bytesWritten := o'.pos }) := by
      rw [Reply.encode_eq, bind_ok _ run]
      rfl
    rw [Reply.length_fields] at place
    constructor
    · rw [whole]
      exact inside
    · rw [whole]
      exact iff_of_true rfl (place ▸ below)
    · rw [whole]
      exact fun failed => absurd rfl failed
    · rw [whole]
      refine fun _ => ⟨place, bytesOf r.fields, r.length_fields, fun k => ?_, r.parses_fields⟩
      change load o'.stores k = _
      rw [stores, load_copied, if_neg (Nat.not_lt_zero k), Nat.sub_zero]
  · have whole : r.encode bufLen ⟨[], 0, bytesWritten⟩ = (.error .bufferTooSmall, o') := by
      rw [Reply.encode_eq, bind_error _ run]
    have long : bufLen.toNat < r.length := by
      rw [← r.length_fields]
      exact Nat.lt_of_lt_of_eq short (Nat.zero_add _)
    constructor
    · rw [whole]
      exact inside
    · rw [whole]
      exact iff_of_false nofun (Nat.not_le.mpr long)
    · rw [whole]
      exact fun _ => written.bytesWritten
    · rw [whole]
      exact fun ok => (nomatch ok)

theorem Reply.not_exact_of_wraps (r : Reply) (bytesWritten : UInt32) (wraps : r.Wraps bufLen) :
    ¬r.Exact bufLen bytesWritten := by
  intro exact_
  have crosses : Crosses bufLen (Output.pos ⟨[], 0, bytesWritten⟩).toNat r.fields := r.crosses_iff.mpr wraps
  obtain ⟨b, mem⟩ := writeAll_crosses crosses
  have kept : Keeps (fun o => (2 ^ 32 - 1, b) ∈ o.stores) setBytesWritten := .modify fun _ mem => mem
  have stored : (2 ^ 32 - 1, b) ∈ (r.encode bufLen ⟨[], 0, bytesWritten⟩).2.stores := by
    rw [Reply.encode_eq]
    rcases run : writeAll bufLen r.fields ⟨[], 0, bytesWritten⟩ with ⟨_ | _, o'⟩
    · rw [run] at mem
      rw [bind_error _ run]
      exact mem
    · rw [run] at mem
      rw [bind_ok _ run]
      exact mem
  have inside := exact_.inside _ stored
  have bound := bufLen.toNat_lt
  omega

end Exact

section Decode

variable {bufLen : UInt32} {buf : Nat → UInt8}

def wordAt (buf : Nat → UInt8) (k : Nat) : UInt32 := value32 (buf k) (buf (k + 1)) (buf (k + 2)) (buf (k + 3))

theorem readU32Be_at (k : Nat) (fits : k + 4 ≤ bufLen.toNat) :
    readU32Be bufLen buf (UInt32.ofNat k) = (.ok (wordAt buf k), UInt32.ofNat (k + 4)) := by
  have bound := bufLen.toNat_lt
  have place (j : Nat) (low : j ≤ 4) : (UInt32.ofNat k + UInt32.ofNat j).toNat = k + j := by
    rw [← UInt32.ofNat_add, UInt32.toNat_ofNat', Nat.mod_eq_of_lt (by omega)]
  have zero : (UInt32.ofNat k).toNat = k := by
    rw [UInt32.toNat_ofNat', Nat.mod_eq_of_lt (by omega)]
  have taken : ¬bufLen < UInt32.ofNat k + 4 := by
    rw [UInt32.lt_iff_toNat_lt]
    have four : (UInt32.ofNat k + 4).toNat = k + 4 := place 4 (by decide)
    omega
  have one : (UInt32.ofNat k + 1).toNat = k + 1 := place 1 (by decide)
  have two : (UInt32.ofNat k + 2).toNat = k + 2 := place 2 (by decide)
  have three : (UInt32.ofNat k + 3).toNat = k + 3 := place 3 (by decide)
  rw [readU32Be, read_bind]
  change (reject (bufLen < UInt32.ofNat k + 4) _ >>= _) _ = _
  rw [reject_bind_neg _ taken, modify_bind]
  change (Except.ok _, UInt32.ofNat k + 4) = _
  simp only [id_eq]
  rw [zero, one, two, three, shifted32, UInt32.ofNat_add]
  rfl

theorem readBytes_at (k n : Nat) (fits : k + n ≤ bufLen.toNat) :
    readBytes bufLen buf n (UInt32.ofNat k) = (.ok (.ofFn fun j => buf (k + j)), UInt32.ofNat (k + n)) := by
  have bound := bufLen.toNat_lt
  have zero : (UInt32.ofNat k).toNat = k := by
    rw [UInt32.toNat_ofNat', Nat.mod_eq_of_lt (by omega)]
  have taken : ¬(n ≠ 0 ∧ bufLen < UInt32.ofNat k + UInt32.ofNat n) := by
    rw [← UInt32.ofNat_add, UInt32.lt_iff_toNat_lt, UInt32.toNat_ofNat', Nat.mod_eq_of_lt (by omega)]
    omega
  rw [readBytes, read_bind]
  change (reject (n ≠ 0 ∧ bufLen < UInt32.ofNat k + UInt32.ofNat n) _ >>= _) _ = _
  rw [reject_bind_neg _ taken, modify_bind]
  change (Except.ok _, UInt32.ofNat k + UInt32.ofNat n) = _
  simp only [id_eq]
  rw [zero, UInt32.ofNat_add]

theorem reads_wordAt (k : Nat) : Layout.Reads .u32 [buf k, buf (k + 1), buf (k + 2), buf (k + 3)] (wordAt buf k) :=
  fun _ => rfl

theorem reads_basicAt : Layout.Reads headerBasic ((List.range 20).map buf)
    ⟨wordAt buf 0, wordAt buf 4, wordAt buf 8, wordAt buf 12, wordAt buf 16⟩ :=
  (reads_wordAt 0).bind <| (reads_wordAt 4).bind <| (reads_wordAt 8).bind <| (reads_wordAt 12).bind <|
    (reads_wordAt 16).bind (.pure _)

theorem range_split (buf : Nat → UInt8) (k n : Nat) :
    (List.range (k + n)).map buf = (List.range k).map buf ++
      ((Vector.ofFn fun j : Fin n => buf (k + j)).toList ++ []) := by
  rw [List.range_add, List.map_append, append_nil, List.map_map, Vector.toList_ofFn]
  congr 1
  apply List.ext_getElem
  · simp
  · intro i _ _
    simp

theorem reads_cmdSubmitAt : Layout.Reads headerCmdSubmit ((List.range 48).map buf)
    ⟨⟨wordAt buf 0, wordAt buf 4, wordAt buf 8, wordAt buf 12, wordAt buf 16⟩, wordAt buf 20, wordAt buf 24,
      wordAt buf 28, wordAt buf 32, wordAt buf 36, .ofFn fun j => buf (40 + j)⟩ := by
  rw [range_split buf 40 8]
  exact reads_basicAt.bind <| (reads_wordAt 20).bind <| (reads_wordAt 24).bind <| (reads_wordAt 28).bind <|
    (reads_wordAt 32).bind <| (reads_wordAt 36).bind <| (Layout.reads_array _).bind (.pure _)

theorem reads_cmdUnlinkAt : Layout.Reads headerCmdUnlink ((List.range 48).map buf)
    ⟨⟨wordAt buf 0, wordAt buf 4, wordAt buf 8, wordAt buf 12, wordAt buf 16⟩, wordAt buf 20,
      .ofFn fun j => buf (24 + j)⟩ := by
  rw [range_split buf 24 24]
  exact reads_basicAt.bind <| (reads_wordAt 20).bind <| (Layout.reads_array _).bind (.pure _)

/-- The decoders give back every field of a command that is laid out as the structures are. -/
structure Recovers (buf : Nat → UInt8) (bufLen : UInt32) : Prop where
  submit : ∀ h, headerCmdSubmit ((List.range 48).map buf) = some (h, []) → h.basic.command = cmdSubmit →
    (decodeCmdSubmit bufLen buf 0).1 = .ok ⟨h.basic.seqnum, h.basic.devid, h.basic.direction, h.basic.ep,
      h.transferFlags, h.transferBufferLength, h.interval, h.setup⟩
  unlink : ∀ h, headerCmdUnlink ((List.range 48).map buf) = some (h, []) → h.basic.command = cmdUnlink →
    (decodeCmdUnlink bufLen buf 0).1 = .ok ⟨h.basic.seqnum, h.basic.devid, h.basic.direction, h.basic.ep,
      h.unlinkSeqnum⟩

theorem readU32Be_bind {β : Type} (k : Nat) (f : UInt32 → Decoder β) (fits : k + 4 ≤ bufLen.toNat) :
    (readU32Be bufLen buf >>= f) (UInt32.ofNat k) = f (wordAt buf k) (UInt32.ofNat (k + 4)) :=
  bind_ok f (readU32Be_at k fits)

theorem decodeCmdSubmit_run (long : 48 ≤ bufLen.toNat) (command : wordAt buf 0 = cmdSubmit) :
    (decodeCmdSubmit bufLen buf 0).1 = .ok ⟨wordAt buf 4, wordAt buf 8, wordAt buf 12, wordAt buf 16, wordAt buf 20,
      wordAt buf 24, wordAt buf 36, .ofFn fun j => buf (40 + j)⟩ := by
  have enough : ¬bufLen < protoDataHeaderSize := by
    rw [UInt32.lt_iff_toNat_lt]
    exact Nat.not_lt.mpr long
  have within : ¬bufLen < UInt32.ofNat 28 + 8 := by
    rw [UInt32.lt_iff_toNat_lt]
    change ¬bufLen.toNat < 36
    omega
  rw [decodeCmdSubmit, reject_bind_neg _ enough]
  change ((readU32Be bufLen buf >>= _) (UInt32.ofNat 0)).1 = _
  rw [readU32Be_bind 0 _ (by omega), reject_bind_neg _ (not_not.mpr command), readU32Be_bind 4 _ (by omega),
    readU32Be_bind 8 _ (by omega), readU32Be_bind 12 _ (by omega), readU32Be_bind 16 _ (by omega),
    readU32Be_bind 20 _ (by omega), readU32Be_bind 24 _ (by omega), modify_bind, read_bind]
  change ((reject (bufLen < UInt32.ofNat 28 + 8) _ >>= _) (UInt32.ofNat 36)).1 = _
  rw [reject_bind_neg _ within, readU32Be_bind 36 _ (by omega), bind_ok _ (readBytes_at 40 8 (by omega))]
  rfl

theorem decodeCmdUnlink_run (long : 48 ≤ bufLen.toNat) (command : wordAt buf 0 = cmdUnlink) :
    (decodeCmdUnlink bufLen buf 0).1 =
      .ok ⟨wordAt buf 4, wordAt buf 8, wordAt buf 12, wordAt buf 16, wordAt buf 20⟩ := by
  have enough : ¬bufLen < protoDataHeaderSize := by
    rw [UInt32.lt_iff_toNat_lt]
    exact Nat.not_lt.mpr long
  rw [decodeCmdUnlink, reject_bind_neg _ enough]
  change ((readU32Be bufLen buf >>= _) (UInt32.ofNat 0)).1 = _
  rw [readU32Be_bind 0 _ (by omega), reject_bind_neg _ (not_not.mpr command), readU32Be_bind 4 _ (by omega),
    readU32Be_bind 8 _ (by omega), readU32Be_bind 12 _ (by omega), readU32Be_bind 16 _ (by omega),
    readU32Be_bind 20 _ (by omega)]
  rfl

theorem recovers (buf : Nat → UInt8) (long : 48 ≤ bufLen.toNat) : Recovers buf bufLen := by
  constructor
  · intro h laidOut command
    have whole := @reads_cmdSubmitAt buf []
    rw [append_nil] at whole
    obtain ⟨rfl, -⟩ := Prod.mk.inj (Option.some.inj (whole.symm.trans laidOut))
    exact decodeCmdSubmit_run long command
  · intro h laidOut command
    have whole := @reads_cmdUnlinkAt buf []
    rw [append_nil] at whole
    obtain ⟨rfl, -⟩ := Prod.mk.inj (Option.some.inj (whole.symm.trans laidOut))
    exact decodeCmdUnlink_run long command

end Decode

/-- The codec is exact unless a sum of a place and a length wraps. -/
theorem codec_exact_iff (r : Reply) (bufLen bytesWritten cmdLen : UInt32) (buf : Nat → UInt8)
    (command : 48 ≤ cmdLen.toNat) : r.Exact bufLen bytesWritten ∧ Recovers buf cmdLen ↔ ¬r.Wraps bufLen := by
  constructor
  · exact fun exact_ wraps => r.not_exact_of_wraps bytesWritten wraps exact_.1
  · exact fun apart => ⟨r.exact_of_not_wraps bytesWritten apart, recovers buf command⟩

theorem codec_exact_iff_sample :
    (Reply.unlink 1 2 0 0 0).Exact 47 9 ∧ Recovers (fun _ => 0) 48 ↔ ¬(Reply.unlink 1 2 0 0 0).Wraps 47 :=
  codec_exact_iff (.unlink 1 2 0 0 0) 47 9 48 (fun _ => 0) (by decide)

/-- A payload that ends at 2 ^ 32 is copied behind a header that fills the buffer. -/
theorem payload_wraps :
    ¬∀ (r : Reply) (bufLen bytesWritten cmdLen : UInt32) (buf : Nat → UInt8), 48 ≤ cmdLen.toNat →
      r.Exact bufLen bytesWritten ∧ Recovers buf cmdLen := by
  intro all
  have exact_ := (all (.submit 1 2 1 1 0 0 0xFFFFFFD0 (some (.replicate _ 0)) fun _ => rfl) 48 0 48 (fun _ => 0)
    (by decide)).1
  have wraps : 48 ≤ (48 : UInt32).toNat ∧ 2 ^ 32 ≤ 48 + (0xFFFFFFD0 : UInt32).toNat := by decide
  exact Reply.not_exact_of_wraps (.submit 1 2 1 1 0 0 0xFFFFFFD0 (some (.replicate _ 0)) fun _ => rfl) 0 wraps exact_

end XSDK.Usbip
