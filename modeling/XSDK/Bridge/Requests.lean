import Mathlib.Algebra.Ring.Nat
import XSDK.Bridge.Channels

/-! What each command of the binary channels asks of its peripheral and how it answers: the
buffers hold the lengths handed along, and one response follows the operations. -/
namespace XSDK.Bridge

open Library
open List (append_nil mem_cons mem_singleton not_mem_nil)

variable {σ : Type} {e : Env σ}

def Span.InPayload (len : Nat) (span : Span) : Prop := span.area = .payload ∧ span.offset + span.length ≤ len

/-- A buffer to receive into lies in the response buffer, or in a variable of the handler. -/
def Span.Holds (span : Span) : Prop :=
  match span.area with
  | .payload => False
  | .respBuf => span.offset + span.length ≤ respBufBytes
  | .own size => span.offset + span.length ≤ size

namespace I2c

/-- The commands of the channel, with the lengths their payload has to have. -/
def WellFormed (cmd : UInt8) (payload : Bytes) : Prop :=
  (cmd = cmdWrite ∧ 4 ≤ payload.length ∧ 4 + le16 payload 2 ≤ payload.length) ∨
  (cmd = cmdRead ∧ 4 ≤ payload.length ∧ le16 payload 2 ≤ maxPayloadBytes) ∨
  (cmd = cmdWriteRead ∧ 6 ≤ payload.length ∧ 6 + le16 payload 2 ≤ payload.length ∧
    le16 payload 4 ≤ maxPayloadBytes) ∨
  cmd = cmdScan ∨ (cmd = cmdSetSpeed ∧ 4 ≤ payload.length)

end I2c

namespace Spi

def WellFormed (cmd : UInt8) (payload : Bytes) : Prop :=
  (cmd = cmdTransfer ∧ 4 ≤ payload.length ∧ 4 + le16 payload 2 ≤ payload.length) ∨
  ((cmd = cmdCsAssert ∨ cmd = cmdCsDeassert) ∧ 1 ≤ payload.length) ∨
  (cmd = cmdSetMode ∧ 2 ≤ payload.length) ∨ (cmd = cmdSetSpeed ∧ 4 ≤ payload.length)

end Spi

namespace Qspi

def WellFormed (cmd : UInt8) (payload : Bytes) : Prop :=
  (cmd = cmdTransfer ∧ 12 ≤ payload.length ∧ 12 + le16 payload 10 ≤ payload.length) ∨
  (cmd = cmdSetSpeed ∧ 4 ≤ payload.length)

/-- A transfer of more bytes than the payload has, although of no more than a payload may have. -/
def Overrun (cmd : UInt8) (payload : Bytes) : Prop :=
  cmd = cmdTransfer ∧ 12 ≤ payload.length ∧ le16 payload 10 ≤ maxPayloadBytes ∧
    payload.length < 12 + le16 payload 10

end Qspi

namespace Adc

def WellFormed (cmd : UInt8) (payload : Bytes) : Prop :=
  (cmd = cmdReadSingle ∧ 4 ≤ payload.length) ∨
  (cmd = cmdReadMulti ∧ 4 ≤ payload.length ∧ le32 payload 0 ≠ 0#32) ∨
  (cmd = cmdSetResolution ∧ 1 ≤ payload.length ∧ byteAt payload 0 ∈ [8, 10, 12, 16]) ∨
  (cmd = cmdSetReference ∧ 1 ≤ payload.length) ∨ (cmd = cmdSetSampleRate ∧ 4 ≤ payload.length)

end Adc

namespace Gpio

def WellFormed (cmd : UInt8) (payload : Bytes) : Prop :=
  ((cmd = cmdSetDirection ∨ cmd = cmdWrite ∨ cmd = cmdSetPull) ∧ 9 ≤ payload.length) ∨
  ((cmd = cmdRead ∨ cmd = cmdToggle) ∧ 8 ≤ payload.length)

end Gpio

def WellFormed : Channel → UInt8 → Bytes → Prop
  | .i2c => I2c.WellFormed
  | .spi => Spi.WellFormed
  | .qspi => Qspi.WellFormed
  | .adc => Adc.WellFormed
  | .gpio => Gpio.WellFormed

/-- The operations that may fail without the request failing: the probes of a scan, and the
release of the chip select after a transfer. -/
def Tolerated (channel : Channel) (cmd : UInt8) (op : Op) : Prop :=
  (channel = .i2c ∧ cmd = I2c.cmdScan) ∨
  (channel = .spi ∧ cmd = Spi.cmdTransfer ∧ ∃ csIdx, op = .spiCsDeassert csIdx)

def Op.Bounded (fits : Prop) (len : Nat) (op : Op) : Prop :=
  (fits → ∀ span ∈ op.sends, span.InPayload len) ∧ ∀ span ∈ op.receives, span.Holds

structure Exchange (len : Nat) (fits well : Prop) (tolerated : Op → Prop) (asked : List (Op × Bool))
    (status : UInt8) (body : Bytes) : Prop where
  body_le : body.length ≤ maxPayloadBytes
  bounded : ∀ p ∈ asked, p.1.Bounded fits len
  plain : status = statusOk ∨ (status = statusError ∧ body = [])
  verdict : fits → (status = statusError ↔ ¬well ∨ ∃ p ∈ asked, p.2 = false ∧ ¬tolerated p.1)

def record (asked : List (Op × Bool)) : List Event := asked.map fun p => .op p.1 p.2

def Handles (channel : Channel) (seq : Word32) (len : Nat) (fits well : Prop) (tolerated : Op → Prop)
    (m : Handler σ Unit) : Prop :=
  ∀ s, ∃ asked status body,
    (m s).2.log = s.log ++ record asked ++ [.sent (frameResp channel.code status seq body)] ∧
      Exchange len fits well tolerated asked status body

section Rules

variable {channel : Channel} {seq : Word32} {len : Nat} {fits well : Prop} {tolerated : Op → Prop}

variable {op : Op} {body : Bytes}

theorem respond_log (status : UInt8) (le : body.length ≤ maxPayloadBytes) (s : World σ) :
    (respond e channel status seq body s).2.log = s.log ++ [.sent (frameResp channel.code status seq body)] := by
  have room : ¬respBufBytes < frameHeaderBytes + body.length := by
    unfold respBufBytes
    omega
  unfold respond buildResponse
  rw [if_neg room]
  rfl

theorem statuses_differ : statusOk ≠ statusError := by decide

theorem refuse_handles (bad : fits → ¬well) :
    Handles channel seq len fits well tolerated (sendStatusResponse e channel statusError seq) := by
  intro s
  refine ⟨[], statusError, [], ?_, Nat.zero_le _, fun p mem => absurd mem not_mem_nil,
    .inr ⟨rfl, rfl⟩, fun ok => ⟨fun _ => .inl (bad ok), fun _ => rfl⟩⟩
  rw [record, List.map_nil, append_nil]
  exact respond_log statusError (Nat.zero_le _) s

theorem Exchange.single {ok : Bool} {status : UInt8} (good : fits → well)
    (bounded : op.Bounded fits len) (strict : ¬tolerated op) (le : body.length ≤ maxPayloadBytes)
    (outcome : (ok = true ∧ status = statusOk) ∨ (ok = false ∧ status = statusError ∧ body = [])) :
    Exchange len fits well tolerated [(op, ok)] status body := by
  refine ⟨le, ?_, ?_, fun ok => ?_⟩
  · intro p mem
    rw [mem_singleton.mp mem]
    exact bounded
  · rcases outcome with ⟨-, rfl⟩ | ⟨-, rfl, rfl⟩
    · exact .inl rfl
    · exact .inr ⟨rfl, rfl⟩
  · rcases outcome with ⟨rfl, rfl⟩ | ⟨rfl, rfl, -⟩
    · constructor
      · exact fun same => absurd same statuses_differ
      · rintro (bad | ⟨p, mem, failed, -⟩)
        · exact absurd (good ok) bad
        · rw [mem_singleton.mp mem] at failed
          cases failed
    · exact ⟨fun _ => .inr ⟨_, List.mem_singleton_self _, rfl, strict⟩, fun _ => rfl⟩

theorem ask_bind {α : Type} (f : Answer → Handler σ α) (s : World σ) :
    (ask e op >>= f) s = f (e.op op s.outside).1 (ask e op s).2 := rfl

theorem ask_log (op : Op) (s : World σ) :
    (ask e op s).2.log = s.log ++ record [(op, (e.op op s.outside).1.ok)] := rfl

theorem report_handles (good : fits → well) (bounded : op.Bounded fits len) (strict : ¬tolerated op) :
    Handles channel seq len fits well tolerated (report e channel seq op) := by
  intro s
  refine ⟨[(op, (e.op op s.outside).1.ok)], statusOf (e.op op s.outside).1, [], ?_, ?_⟩
  · unfold report
    rw [ask_bind]
    refine (respond_log _ (Nat.zero_le _) _).trans ?_
    rw [ask_log]
  · apply Exchange.single good bounded strict (Nat.zero_le _)
    unfold statusOf
    cases (e.op op s.outside).1.ok with
    | true => exact .inl ⟨rfl, rfl⟩
    | false => exact .inr ⟨rfl, rfl, rfl⟩

theorem fetch_handles {length : Nat} (good : fits → well) (bounded : op.Bounded fits len)
    (strict : ¬tolerated op) (le : length ≤ maxPayloadBytes) :
    Handles channel seq len fits well tolerated (fetch e channel seq op length) := by
  intro s
  unfold fetch
  rw [ask_bind]
  rcases ok : (e.op op s.outside).1.ok with _ | _
  · refine ⟨[(op, false)], statusError, [], ?_, Exchange.single good bounded strict (Nat.zero_le _)
      (.inr ⟨rfl, rfl, rfl⟩)⟩
    rw [if_neg (by exact nofun)]
    refine (respond_log _ (Nat.zero_le _) _).trans ?_
    rw [ask_log, ok]
  · have le' : ((List.range length).map (e.op op s.outside).1.bytes).length ≤ maxPayloadBytes := by
      rw [List.length_map, List.length_range]
      exact le
    refine ⟨[(op, true)], statusOk, _, ?_, Exchange.single good bounded strict le' (.inl ⟨rfl, rfl⟩)⟩
    rw [if_pos rfl]
    refine (respond_log _ le' _).trans ?_
    rw [ask_log, ok]

theorem checked_handles {c : Prop} [Decidable c] {m : Handler σ Unit} (bad : c → ¬well)
    (rest : ¬c → Handles channel seq len fits well tolerated m) :
    Handles channel seq len fits well tolerated (if c then sendStatusResponse e channel statusError seq else m) := by
  split
  · rename_i refused
    exact refuse_handles fun _ => bad refused
  · rename_i passed
    exact rest passed

end Rules

/- Buffers that the handlers hand out. -/

theorem respSpan_holds {length : Nat} (le : length ≤ maxPayloadBytes) : (respSpan length).Holds := by
  show frameHeaderBytes + length ≤ respBufBytes
  unfold respBufBytes
  omega

theorem Op.Bounded.plain {op : Op} {fits : Prop} {len : Nat} (sends : op.sends = []) (receives : op.receives = []) :
    op.Bounded fits len := by
  unfold Op.Bounded
  rw [sends, receives]
  exact ⟨fun _ span mem => absurd mem not_mem_nil, fun span mem => absurd mem not_mem_nil⟩

theorem Op.Bounded.of_spans {op : Op} {fits : Prop} {len : Nat}
    (sends : fits → ∀ span ∈ op.sends, span.InPayload len) (receives : ∀ span ∈ op.receives, span.Holds) :
    op.Bounded fits len := ⟨sends, receives⟩

namespace Adc

theorem popcountLoop_le (left : Nat) (v : Word32) : popcountLoop left v ≤ left := by
  induction left generalizing v with
  | zero => exact Nat.le_refl 0
  | succ left ih =>
    rw [popcountLoop]
    split
    · exact Nat.zero_le _
    · have bit : (v &&& 1#32).toNat ≤ 1 := by
        rw [BitVec.toNat_and]
        exact Nat.and_le_right
      have rest := ih (v >>> 1)
      omega

theorem popcountLoop_zero (left : Nat) (v : Word32) (small : v.toNat < 2 ^ left) :
    popcountLoop left v = 0 ↔ v = 0#32 := by
  induction left generalizing v with
  | zero =>
    have none : v = 0#32 := by
      apply BitVec.eq_of_toNat_eq
      rw [BitVec.toNat_ofNat]
      omega
    exact ⟨fun _ => none, fun _ => rfl⟩
  | succ left ih =>
    rw [popcountLoop]
    split
    · rename_i none
      exact ⟨fun _ => none, fun _ => rfl⟩
    · rename_i some
      refine ⟨fun zero => absurd ?_ some, fun none => absurd none some⟩
      have half : (v >>> 1).toNat = v.toNat / 2 := by
        rw [BitVec.toNat_ushiftRight, Nat.shiftRight_eq_div_pow]
      have low : (v &&& 1#32).toNat = v.toNat % 2 := by
        rw [BitVec.toNat_and]
        exact Nat.and_one_is_mod _
      have rest := (ih (v >>> 1) (by omega)).mp (by omega)
      have halfZero : v.toNat / 2 = 0 := by
        rw [← half, rest]
        rfl
      apply BitVec.eq_of_toNat_eq
      rw [BitVec.toNat_ofNat]
      omega

theorem popcount32_le (v : Word32) : popcount32 v ≤ maxChannels := popcountLoop_le 32 v

theorem popcount32_zero (v : Word32) : popcount32 v = 0 ↔ v = 0#32 := popcountLoop_zero 32 v v.isLt

end Adc

/-- The lengths of a transfer fit the payload, as far as they are compared with it. -/
def Within (channel : Channel) (cmd : UInt8) (payload : Bytes) : Prop :=
  channel = .qspi → ¬Qspi.Overrun cmd payload

def Served (channel : Channel) (cmd : UInt8) (payload : Bytes) (seq : Word32) (m : Handler σ Unit) : Prop :=
  Handles channel seq payload.length (Within channel cmd payload) (WellFormed channel cmd payload)
    (Tolerated channel cmd) m

section

variable (payload : Bytes) (seq : Word32)

theorem setting_handles {channel : Channel} {len least : Nat} {fits well : Prop} {tolerated : Op → Prop} {op : Op}
    (is : well ↔ least ≤ payload.length) (sends : op.sends = []) (receives : op.receives = [])
    (strict : ¬tolerated op) :
    Handles channel seq len fits well tolerated
      (if payload.length < least then sendStatusResponse e channel statusError seq else report e channel seq op) := by
  apply checked_handles
  · exact fun short ok => absurd (is.mp ok) (Nat.not_le.mpr short)
  · exact fun long => report_handles (fun _ => is.mpr (Nat.not_lt.mp long)) (.plain sends receives) strict

theorem getting_handles {channel : Channel} {len least size : Nat} {fits well : Prop} {tolerated : Op → Prop} {op : Op}
    (is : well ↔ least ≤ payload.length) (sends : op.sends = []) (receives : op.receives = [⟨.own size, 0, size⟩])
    (strict : ¬tolerated op) (le : size ≤ maxPayloadBytes) :
    Handles channel seq len fits well tolerated
      (if payload.length < least then sendStatusResponse e channel statusError seq else fetch e channel seq op size) := by
  apply checked_handles
  · exact fun short ok => absurd (is.mp ok) (Nat.not_le.mpr short)
  · intro long
    apply fetch_handles (fun _ => is.mpr (Nat.not_lt.mp long)) _ strict le
    apply Op.Bounded.of_spans
    · rw [sends]
      exact fun _ span mem => absurd mem not_mem_nil
    · intro span mem
      rw [receives] at mem
      rw [mem_singleton.mp mem]
      exact Nat.le_of_eq (Nat.zero_add size)

namespace I2c

theorem wellFormed_write :
    WellFormed cmdWrite payload ↔ 4 ≤ payload.length ∧ 4 + le16 payload 2 ≤ payload.length := by
  simp [WellFormed, cmdWrite, cmdRead, cmdWriteRead, cmdScan, cmdSetSpeed]

theorem wellFormed_read : WellFormed cmdRead payload ↔ 4 ≤ payload.length ∧ le16 payload 2 ≤ maxPayloadBytes := by
  simp [WellFormed, cmdWrite, cmdRead, cmdWriteRead, cmdScan, cmdSetSpeed]

theorem wellFormed_writeRead :
    WellFormed cmdWriteRead payload ↔ 6 ≤ payload.length ∧ 6 + le16 payload 2 ≤ payload.length ∧
      le16 payload 4 ≤ maxPayloadBytes := by
  simp [WellFormed, cmdWrite, cmdRead, cmdWriteRead, cmdScan, cmdSetSpeed]

theorem wellFormed_setSpeed : WellFormed cmdSetSpeed payload ↔ 4 ≤ payload.length := by
  simp [WellFormed, cmdWrite, cmdRead, cmdWriteRead, cmdScan, cmdSetSpeed]

theorem served_write : Served .i2c cmdWrite payload seq (handleWrite e payload seq) := by
  have well := wellFormed_write payload
  unfold Served handleWrite
  apply checked_handles
  · exact fun short ok => absurd (well.mp ok).1 (Nat.not_le.mpr short)
  · intro long
    apply checked_handles
    · exact fun short ok => absurd (well.mp ok).2 (Nat.not_le.mpr short)
    · intro room
      apply report_handles
      · exact fun _ => well.mpr ⟨Nat.not_lt.mp long, Nat.not_lt.mp room⟩
      · apply Op.Bounded.of_spans
        · intro _ span mem
          rw [mem_singleton.mp mem]
          exact ⟨rfl, Nat.not_lt.mp room⟩
        · exact fun span mem => absurd mem not_mem_nil
      · simp [Tolerated, cmdWrite, cmdScan]

theorem served_read : Served .i2c cmdRead payload seq (handleRead e payload seq) := by
  have well := wellFormed_read payload
  unfold Served handleRead
  apply checked_handles
  · exact fun short ok => absurd (well.mp ok).1 (Nat.not_le.mpr short)
  · intro long
    apply checked_handles
    · exact fun large ok => absurd (well.mp ok).2 (Nat.not_le.mpr large)
    · intro room
      apply fetch_handles
      · exact fun _ => well.mpr ⟨Nat.not_lt.mp long, Nat.not_lt.mp room⟩
      · apply Op.Bounded.of_spans
        · exact fun _ span mem => absurd mem not_mem_nil
        · intro span mem
          rw [mem_singleton.mp mem]
          exact respSpan_holds (Nat.not_lt.mp room)
      · simp [Tolerated, cmdRead, cmdScan]
      · exact Nat.not_lt.mp room

theorem served_writeRead : Served .i2c cmdWriteRead payload seq (handleWriteRead e payload seq) := by
  have well := wellFormed_writeRead payload
  unfold Served handleWriteRead
  apply checked_handles
  · exact fun short ok => absurd (well.mp ok).1 (Nat.not_le.mpr short)
  · intro long
    apply checked_handles
    · rintro (short | large) ok
      · exact absurd (well.mp ok).2.1 (Nat.not_le.mpr short)
      · exact absurd (well.mp ok).2.2 (Nat.not_le.mpr large)
    · intro room
      obtain ⟨writes, reads⟩ := not_or.mp room
      apply fetch_handles
      · exact fun _ => well.mpr ⟨Nat.not_lt.mp long, Nat.not_lt.mp writes, Nat.not_lt.mp reads⟩
      · apply Op.Bounded.of_spans
        · intro _ span mem
          rw [mem_singleton.mp mem]
          exact ⟨rfl, Nat.not_lt.mp writes⟩
        · intro span mem
          rw [mem_singleton.mp mem]
          exact respSpan_holds (Nat.not_lt.mp reads)
      · simp [Tolerated, cmdWriteRead, cmdScan]
      · exact Nat.not_lt.mp reads

theorem scanFrom_run (left addr : Nat) (found : Bytes) (s : World σ) :
    ∃ asked found', (scanFrom e left addr found s).1 = .ok found' ∧
      (scanFrom e left addr found s).2.log = s.log ++ record asked ∧ found'.length ≤ found.length + left ∧
      ∀ p ∈ asked, ∃ a, p.1 = .i2cRead a ⟨.own 1, 0, 1⟩ := by
  induction left generalizing addr found s with
  | zero => exact ⟨[], found, rfl, (append_nil _).symm, Nat.le_refl _, fun p mem => absurd mem not_mem_nil⟩
  | succ left ih =>
    obtain ⟨asked, found', ends, log, le, probes⟩ := ih (addr + 1)
      (if (e.op (.i2cRead addr ⟨.own 1, 0, 1⟩) s.outside).1.ok then found ++ [UInt8.ofNat addr] else found)
      (ask e (.i2cRead addr ⟨.own 1, 0, 1⟩) s).2
    refine ⟨(.i2cRead addr ⟨.own 1, 0, 1⟩, (e.op (.i2cRead addr ⟨.own 1, 0, 1⟩) s.outside).1.ok) :: asked, found',
      ends, ?_, ?_, ?_⟩
    · rw [ask_log] at log
      refine log.trans ?_
      rw [List.append_assoc]
      rfl
    · split at le
      · rw [List.length_append, List.length_singleton] at le
        omega
      · omega
    · intro p mem
      rcases mem_cons.mp mem with rfl | mem
      · exact ⟨addr, rfl⟩
      · exact probes p mem

theorem served_scan : Served .i2c cmdScan payload seq (handleScan e seq) := by
  have well : WellFormed cmdScan payload := .inr (.inr (.inr (.inl rfl)))
  intro s
  obtain ⟨asked, found, ends, log, le, probes⟩ := scanFrom_run (e := e) 127 1 [] s
  have small : found.length ≤ maxPayloadBytes := Nat.le_trans le (by decide)
  have run : (handleScan e seq s).2 = (respond e .i2c statusOk seq found (scanFrom e 127 1 [] s).2).2 := by
    unfold handleScan
    rw [Call.bind_run]
    rcases out : scanFrom e 127 1 [] s with ⟨r, s'⟩
    rw [out] at ends
    cases ends
    rfl
  refine ⟨asked, statusOk, found, ?_, small, ?_, .inl rfl, fun _ => ?_⟩
  · rw [run, respond_log _ small, log]
  · intro p mem
    obtain ⟨a, probe⟩ := probes p mem
    rw [probe]
    apply Op.Bounded.of_spans
    · exact fun _ span mem => absurd mem not_mem_nil
    · intro span mem
      rw [mem_singleton.mp mem]
      exact Nat.le_refl 1
  · refine ⟨fun same => absurd same statuses_differ, ?_⟩
    rintro (bad | ⟨p, mem, -, strict⟩)
    · exact absurd well bad
    · exact absurd (.inl ⟨rfl, rfl⟩) strict

theorem served_setSpeed : Served .i2c cmdSetSpeed payload seq (handleSetSpeed e payload seq) :=
  setting_handles payload seq (wellFormed_setSpeed payload) rfl rfl (by simp [Tolerated, cmdSetSpeed, cmdScan])

theorem served (cmd : UInt8) : Served .i2c cmd payload seq (handle e cmd payload seq) := by
  unfold handle
  split
  · subst_vars
    exact served_write payload seq
  · split
    · subst_vars
      exact served_read payload seq
    · split
      · subst_vars
        exact served_writeRead payload seq
      · split
        · subst_vars
          exact served_scan payload seq
        · split
          · subst_vars
            exact served_setSpeed payload seq
          · apply refuse_handles
            intro _ ok
            rcases ok with ⟨is, -⟩ | ⟨is, -⟩ | ⟨is, -⟩ | is | ⟨is, -⟩ <;> contradiction

end I2c

namespace Spi

theorem wellFormed_transfer :
    WellFormed cmdTransfer payload ↔ 4 ≤ payload.length ∧ 4 + le16 payload 2 ≤ payload.length := by
  simp [WellFormed, cmdTransfer, cmdCsAssert, cmdCsDeassert, cmdSetMode, cmdSetSpeed]

theorem wellFormed_csAssert : WellFormed cmdCsAssert payload ↔ 1 ≤ payload.length := by
  simp [WellFormed, cmdTransfer, cmdCsAssert, cmdCsDeassert, cmdSetMode, cmdSetSpeed]

theorem wellFormed_csDeassert : WellFormed cmdCsDeassert payload ↔ 1 ≤ payload.length := by
  simp [WellFormed, cmdTransfer, cmdCsAssert, cmdCsDeassert, cmdSetMode, cmdSetSpeed]

theorem wellFormed_setMode : WellFormed cmdSetMode payload ↔ 2 ≤ payload.length := by
  simp [WellFormed, cmdTransfer, cmdCsAssert, cmdCsDeassert, cmdSetMode, cmdSetSpeed]

theorem wellFormed_setSpeed : WellFormed cmdSetSpeed payload ↔ 4 ≤ payload.length := by
  simp [WellFormed, cmdTransfer, cmdCsAssert, cmdCsDeassert, cmdSetMode, cmdSetSpeed]

theorem releaseCs_run (keepCs : Bool) (csIdx : UInt8) (s : World σ) :
    ∃ asked, (releaseCs e keepCs csIdx s).1 = .ok () ∧ (releaseCs e keepCs csIdx s).2.log = s.log ++ record asked ∧
      ∀ p ∈ asked, p.1 = .spiCsDeassert csIdx := by
  unfold releaseCs Call.onlyIf
  split
  · refine ⟨[(.spiCsDeassert csIdx, (e.op (.spiCsDeassert csIdx) s.outside).1.ok)], rfl, rfl, fun p mem => ?_⟩
    rw [mem_singleton.mp mem]
  · exact ⟨[], rfl, (append_nil _).symm, fun p mem => absurd mem not_mem_nil⟩

theorem releaseCs_bind {α : Type} (keepCs : Bool) (csIdx : UInt8) (f : Unit → Handler σ α) (s : World σ) :
    (releaseCs e keepCs csIdx >>= f) s = f () (releaseCs e keepCs csIdx s).2 := by
  obtain ⟨-, ends, -, -⟩ := releaseCs_run (e := e) keepCs csIdx s
  rw [Call.bind_run]
  rcases out : releaseCs e keepCs csIdx s with ⟨r, s'⟩
  rw [out] at ends
  cases ends
  rfl

theorem exchange_handles {dataLen : Nat} {csIdx : UInt8} (well : WellFormed cmdTransfer payload)
    (room : 4 + dataLen ≤ payload.length) (small : dataLen ≤ maxPayloadBytes) (keepCs : Bool) :
    Served .spi cmdTransfer payload seq
      (ask e (.spiCsAssert csIdx) >>= fun selected =>
        if selected.ok = false then sendStatusResponse e .spi statusError seq
        else
          ask e (.spiTransfer (payloadSpan 4 dataLen) (respSpan dataLen)) >>= fun answer =>
            releaseCs e keepCs csIdx >>= fun _ =>
              if answer.ok = false then sendStatusResponse e .spi statusError seq
              else respond e .spi statusOk seq ((List.range dataLen).map answer.bytes)) := by
  have selects : ¬Tolerated .spi cmdTransfer (.spiCsAssert csIdx) := by simp [Tolerated]
  have transfers : ¬Tolerated .spi cmdTransfer (.spiTransfer (payloadSpan 4 dataLen) (respSpan dataLen)) := by
    simp [Tolerated]
  intro s
  rw [ask_bind]
  rcases selected : (e.op (.spiCsAssert csIdx) s.outside).1.ok with _ | _
  · refine ⟨[(.spiCsAssert csIdx, false)], statusError, [], ?_,
      Exchange.single (fun _ => well) (.plain rfl rfl) selects (Nat.zero_le _) (.inr ⟨rfl, rfl, rfl⟩)⟩
    rw [if_pos rfl]
    refine (respond_log _ (Nat.zero_le _) _).trans ?_
    rw [ask_log, selected]
  · rw [if_neg (by exact nofun), ask_bind]
    set s₁ := (ask e (.spiCsAssert csIdx) s).2 with first
    have log₁ : s₁.log = s.log ++ record [(.spiCsAssert csIdx, true)] := by rw [first, ask_log, selected]
    set op : Op := .spiTransfer (payloadSpan 4 dataLen) (respSpan dataLen) with transfer
    set answer := (e.op op s₁.outside).1 with answered
    obtain ⟨asked, -, log₂, releases⟩ := releaseCs_run (e := e) keepCs csIdx (ask e op s₁).2
    rw [releaseCs_bind]
    set asked' := (Op.spiCsAssert csIdx, true) :: (op, answer.ok) :: asked with all
    have log : (releaseCs e keepCs csIdx (ask e op s₁).2).2.log = s.log ++ record asked' := by
      rw [log₂, ask_log, log₁]
      simp [record, all, answered]
    have bounded : ∀ p ∈ asked', p.1.Bounded (Within .spi cmdTransfer payload) payload.length := by
      intro p mem
      rcases mem_cons.mp mem with rfl | mem
      · exact .plain rfl rfl
      · rcases mem_cons.mp mem with rfl | mem
        · apply Op.Bounded.of_spans
          · intro _ span mem
            rw [mem_singleton.mp mem]
            exact ⟨rfl, room⟩
          · intro span mem
            rw [mem_singleton.mp mem]
            exact respSpan_holds small
        · rw [releases p mem]
          exact .plain rfl rfl
    rcases exchanged : answer.ok with _ | _
    · refine ⟨asked', statusError, [], ?_, Nat.zero_le _, bounded, .inr ⟨rfl, rfl⟩, fun _ => ?_⟩
      · rw [if_pos rfl]
        exact (respond_log _ (Nat.zero_le _) _).trans (by rw [log])
      · refine ⟨fun _ => .inr ⟨(op, answer.ok), by simp [all], exchanged, transfers⟩, fun _ => rfl⟩
    · have le : ((List.range dataLen).map answer.bytes).length ≤ maxPayloadBytes := by
        rw [List.length_map, List.length_range]
        exact small
      refine ⟨asked', statusOk, _, ?_, le, bounded, .inl rfl, fun _ => ⟨fun same => absurd same statuses_differ, ?_⟩⟩
      · rw [if_neg (by exact nofun)]
        exact (respond_log _ le _).trans (by rw [log])
      · rintro (bad | ⟨p, mem, failed, strict⟩)
        · exact absurd well bad
        · rcases mem_cons.mp mem with rfl | mem
          · cases failed
          · rcases mem_cons.mp mem with rfl | mem
            · rw [exchanged] at failed
              cases failed
            · exact absurd (.inr ⟨rfl, rfl, csIdx, releases p mem⟩) strict

theorem served_transfer (small : payload.length ≤ maxPayloadBytes) :
    Served .spi cmdTransfer payload seq (handleTransfer e payload seq) := by
  have well := wellFormed_transfer payload
  unfold Served handleTransfer
  apply checked_handles
  · exact fun short ok => absurd (well.mp ok).1 (Nat.not_le.mpr short)
  · intro long
    apply checked_handles
    · rintro (short | large) ok
      · exact absurd (well.mp ok).2 (Nat.not_le.mpr short)
      · have fits := (well.mp ok).2
        omega
    · intro room
      obtain ⟨room, short⟩ := not_or.mp room
      exact exchange_handles payload seq (well.mpr ⟨Nat.not_lt.mp long, Nat.not_lt.mp room⟩) (Nat.not_lt.mp room)
        (Nat.not_lt.mp short) _

theorem served_csAssert : Served .spi cmdCsAssert payload seq (handleCsAssert e payload seq) :=
  setting_handles payload seq (wellFormed_csAssert payload) rfl rfl (by simp [Tolerated])

theorem served_csDeassert : Served .spi cmdCsDeassert payload seq (handleCsDeassert e payload seq) :=
  setting_handles payload seq (wellFormed_csDeassert payload) rfl rfl (by simp [Tolerated, cmdCsDeassert, cmdTransfer])

theorem served_setMode : Served .spi cmdSetMode payload seq (handleSetMode e payload seq) :=
  setting_handles payload seq (wellFormed_setMode payload) rfl rfl (by simp [Tolerated])

theorem served_setSpeed : Served .spi cmdSetSpeed payload seq (handleSetSpeed e payload seq) :=
  setting_handles payload seq (wellFormed_setSpeed payload) rfl rfl (by simp [Tolerated])

theorem served (cmd : UInt8) (small : payload.length ≤ maxPayloadBytes) :
    Served .spi cmd payload seq (handle e cmd payload seq) := by
  unfold handle
  split
  · subst_vars
    exact served_transfer payload seq small
  · split
    · subst_vars
      exact served_csAssert payload seq
    · split
      · subst_vars
        exact served_csDeassert payload seq
      · split
        · subst_vars
          exact served_setMode payload seq
        · split
          · subst_vars
            exact served_setSpeed payload seq
          · apply refuse_handles
            intro _ ok
            rcases ok with ⟨is, -⟩ | ⟨is | is, -⟩ | ⟨is, -⟩ | ⟨is, -⟩ <;> contradiction

end Spi

namespace Qspi

theorem wellFormed_transfer :
    WellFormed cmdTransfer payload ↔ 12 ≤ payload.length ∧ 12 + le16 payload 10 ≤ payload.length := by
  simp [WellFormed, cmdTransfer, cmdSetSpeed]

theorem wellFormed_setSpeed : WellFormed cmdSetSpeed payload ↔ 4 ≤ payload.length := by
  simp [WellFormed, cmdTransfer, cmdSetSpeed]

theorem served_transfer (small : payload.length ≤ maxPayloadBytes) :
    Served .qspi cmdTransfer payload seq (handleTransfer e payload seq) := by
  have well := wellFormed_transfer payload
  unfold Served handleTransfer
  apply checked_handles
  · exact fun short ok => absurd (well.mp ok).1 (Nat.not_le.mpr short)
  · intro long
    apply checked_handles
    · intro large ok
      have fits := (well.mp ok).2
      omega
    · intro notLarge
      have room : Within .qspi cmdTransfer payload → 12 + le16 payload 10 ≤ payload.length := by
        intro within
        by_contra short
        exact within rfl ⟨rfl, Nat.not_lt.mp long, Nat.not_lt.mp notLarge, Nat.not_le.mp short⟩
      apply fetch_handles
      · exact fun within => well.mpr ⟨Nat.not_lt.mp long, room within⟩
      · apply Op.Bounded.of_spans
        · intro within span mem
          rcases Nat.eq_zero_or_pos (le16 payload 10) with none | some
          · rw [if_neg (by omega)] at mem
            exact absurd mem not_mem_nil
          · rw [if_pos some] at mem
            rw [mem_singleton.mp mem]
            exact ⟨rfl, room within⟩
        · intro span mem
          rw [mem_singleton.mp mem]
          exact respSpan_holds (Nat.not_lt.mp notLarge)
      · simp [Tolerated]
      · exact Nat.not_lt.mp notLarge

theorem served_setSpeed : Served .qspi cmdSetSpeed payload seq (handleSetSpeed e payload seq) :=
  setting_handles payload seq (wellFormed_setSpeed payload) rfl rfl (by simp [Tolerated])

theorem served (cmd : UInt8) (small : payload.length ≤ maxPayloadBytes) :
    Served .qspi cmd payload seq (handle e cmd payload seq) := by
  unfold handle
  split
  · subst_vars
    exact served_transfer payload seq small
  · split
    · subst_vars
      exact served_setSpeed payload seq
    · apply refuse_handles
      intro _ ok
      rcases ok with ⟨is, -⟩ | ⟨is, -⟩ <;> contradiction

end Qspi

namespace Adc

theorem wellFormed_readSingle : WellFormed cmdReadSingle payload ↔ 4 ≤ payload.length := by
  simp [WellFormed, cmdReadSingle, cmdReadMulti, cmdSetResolution, cmdSetReference, cmdSetSampleRate]

theorem wellFormed_readMulti : WellFormed cmdReadMulti payload ↔ 4 ≤ payload.length ∧ le32 payload 0 ≠ 0#32 := by
  simp [WellFormed, cmdReadSingle, cmdReadMulti, cmdSetResolution, cmdSetReference, cmdSetSampleRate]

theorem wellFormed_setResolution :
    WellFormed cmdSetResolution payload ↔ 1 ≤ payload.length ∧ byteAt payload 0 ∈ [8, 10, 12, 16] := by
  simp [WellFormed, cmdReadSingle, cmdReadMulti, cmdSetResolution, cmdSetReference, cmdSetSampleRate]

theorem wellFormed_setReference : WellFormed cmdSetReference payload ↔ 1 ≤ payload.length := by
  simp [WellFormed, cmdReadSingle, cmdReadMulti, cmdSetResolution, cmdSetReference, cmdSetSampleRate]

theorem wellFormed_setSampleRate : WellFormed cmdSetSampleRate payload ↔ 4 ≤ payload.length := by
  simp [WellFormed, cmdReadSingle, cmdReadMulti, cmdSetResolution, cmdSetReference, cmdSetSampleRate]

theorem served_readSingle : Served .adc cmdReadSingle payload seq (handleReadSingle e payload seq) :=
  getting_handles payload seq (wellFormed_readSingle payload) rfl rfl (by simp [Tolerated]) (by decide)

theorem served_readMulti : Served .adc cmdReadMulti payload seq (handleReadMulti e payload seq) := by
  have well := wellFormed_readMulti payload
  have most := popcount32_le (le32 payload 0)
  unfold Served handleReadMulti
  apply checked_handles
  · exact fun short ok => absurd (well.mp ok).1 (Nat.not_le.mpr short)
  · intro long
    apply checked_handles
    · rintro (none | many) ok
      · exact absurd ((popcount32_zero _).mp none) (well.mp ok).2
      · exact absurd most (Nat.not_le.mpr many)
    · intro some
      have mask := fun none => some (.inl ((popcount32_zero _).mpr none))
      apply fetch_handles (fun _ => well.mpr ⟨Nat.not_lt.mp long, mask⟩)
      · apply Op.Bounded.of_spans
        · exact fun _ span mem => absurd mem not_mem_nil
        · intro span mem
          rw [mem_singleton.mp mem]
          show 0 + popcount32 (le32 payload 0) * 4 ≤ maxChannels * 4
          omega
      · simp [Tolerated]
      · unfold maxChannels at most
        unfold maxPayloadBytes
        omega

theorem keepBits_bind (ok : Bool) (bits : UInt8) (f : Unit → Handler σ Unit) (s : World σ) :
    ∃ s', s'.log = s.log ∧ (Call.onlyIf (ok = true) (setResolutionBits bits) >>= f) s = f () s' := by
  cases ok with
  | true => exact ⟨{ s with resolutionBits := bits }, rfl, rfl⟩
  | false => exact ⟨s, rfl, rfl⟩

theorem served_setResolution : Served .adc cmdSetResolution payload seq (handleSetResolution e payload seq) := by
  have well := wellFormed_setResolution payload
  unfold Served handleSetResolution
  apply checked_handles
  · exact fun short ok => absurd (well.mp ok).1 (Nat.not_le.mpr short)
  · intro long
    apply checked_handles
    · intro other ok
      have listed := (well.mp ok).2
      simp only [mem_cons, not_mem_nil, or_false] at listed
      rcases listed with is | is | is | is
      · exact other.1 is
      · exact other.2.1 is
      · exact other.2.2.1 is
      · exact other.2.2.2 is
    · intro listed
      have ok : WellFormed cmdSetResolution payload := by
        refine well.mpr ⟨Nat.not_lt.mp long, ?_⟩
        simp only [mem_cons, not_mem_nil, or_false]
        by_contra other
        exact listed (by simpa only [not_or] using other)
      intro s
      have strict : ¬Tolerated .adc cmdSetResolution (.adcSetResolution (byteAt payload 0)) := by simp [Tolerated]
      refine ⟨[(.adcSetResolution (byteAt payload 0), (e.op (.adcSetResolution (byteAt payload 0)) s.outside).1.ok)],
        statusOf (e.op (.adcSetResolution (byteAt payload 0)) s.outside).1, [], ?_, ?_⟩
      · obtain ⟨s', log, run⟩ := keepBits_bind (e.op (.adcSetResolution (byteAt payload 0)) s.outside).1.ok (byteAt payload 0)
          (fun _ => sendStatusResponse e .adc (statusOf (e.op (.adcSetResolution (byteAt payload 0)) s.outside).1) seq)
          (ask e (.adcSetResolution (byteAt payload 0)) s).2
        rw [ask_bind, run]
        refine (respond_log _ (Nat.zero_le _) _).trans ?_
        rw [log, ask_log]
      · apply Exchange.single (fun _ => ok) (.plain rfl rfl) strict (Nat.zero_le _)
        unfold statusOf
        cases (e.op (.adcSetResolution (byteAt payload 0)) s.outside).1.ok with
        | true => exact .inl ⟨rfl, rfl⟩
        | false => exact .inr ⟨rfl, rfl, rfl⟩

theorem served_setReference : Served .adc cmdSetReference payload seq (handleSetReference e payload seq) :=
  setting_handles payload seq (wellFormed_setReference payload) rfl rfl (by simp [Tolerated])

theorem served_setSampleRate : Served .adc cmdSetSampleRate payload seq (handleSetSampleRate e payload seq) :=
  setting_handles payload seq (wellFormed_setSampleRate payload) rfl rfl (by simp [Tolerated])

theorem served (cmd : UInt8) : Served .adc cmd payload seq (handle e cmd payload seq) := by
  unfold handle
  split
  · subst_vars
    exact served_readSingle payload seq
  · split
    · subst_vars
      exact served_readMulti payload seq
    · split
      · subst_vars
        exact served_setResolution payload seq
      · split
        · subst_vars
          exact served_setReference payload seq
        · split
          · subst_vars
            exact served_setSampleRate payload seq
          · apply refuse_handles
            intro _ ok
            rcases ok with ⟨is, -⟩ | ⟨is, -⟩ | ⟨is, -⟩ | ⟨is, -⟩ | ⟨is, -⟩ <;> contradiction

end Adc

namespace Gpio

theorem wellFormed_setDirection : WellFormed cmdSetDirection payload ↔ 9 ≤ payload.length := by
  simp [WellFormed, cmdSetDirection, cmdWrite, cmdRead, cmdSetPull, cmdToggle]

theorem wellFormed_write : WellFormed cmdWrite payload ↔ 9 ≤ payload.length := by
  simp [WellFormed, cmdSetDirection, cmdWrite, cmdRead, cmdSetPull, cmdToggle]

theorem wellFormed_read : WellFormed cmdRead payload ↔ 8 ≤ payload.length := by
  simp [WellFormed, cmdSetDirection, cmdWrite, cmdRead, cmdSetPull, cmdToggle]

theorem wellFormed_setPull : WellFormed cmdSetPull payload ↔ 9 ≤ payload.length := by
  simp [WellFormed, cmdSetDirection, cmdWrite, cmdRead, cmdSetPull, cmdToggle]

theorem wellFormed_toggle : WellFormed cmdToggle payload ↔ 8 ≤ payload.length := by
  simp [WellFormed, cmdSetDirection, cmdWrite, cmdRead, cmdSetPull, cmdToggle]

theorem served_setDirection : Served .gpio cmdSetDirection payload seq (handleSetDirection e payload seq) :=
  setting_handles payload seq (wellFormed_setDirection payload) rfl rfl (by simp [Tolerated])

theorem served_write : Served .gpio cmdWrite payload seq (handleWrite e payload seq) :=
  setting_handles payload seq (wellFormed_write payload) rfl rfl (by simp [Tolerated])

theorem served_read : Served .gpio cmdRead payload seq (handleRead e payload seq) :=
  getting_handles payload seq (wellFormed_read payload) rfl rfl (by simp [Tolerated]) (by decide)

theorem served_setPull : Served .gpio cmdSetPull payload seq (handleSetPull e payload seq) :=
  setting_handles payload seq (wellFormed_setPull payload) rfl rfl (by simp [Tolerated])

theorem served_toggle : Served .gpio cmdToggle payload seq (handleToggle e payload seq) :=
  setting_handles payload seq (wellFormed_toggle payload) rfl rfl (by simp [Tolerated])

theorem served (cmd : UInt8) : Served .gpio cmd payload seq (handle e cmd payload seq) := by
  unfold handle
  split
  · subst_vars
    exact served_setDirection payload seq
  · split
    · subst_vars
      exact served_write payload seq
    · split
      · subst_vars
        exact served_read payload seq
      · split
        · subst_vars
          exact served_setPull payload seq
        · split
          · subst_vars
            exact served_toggle payload seq
          · apply refuse_handles
            intro _ ok
            rcases ok with ⟨is | is | is, -⟩ | ⟨is | is, -⟩ <;> contradiction

end Gpio

end

theorem served (channel : Channel) (cmd : UInt8) (payload : Bytes) (seq : Word32)
    (small : payload.length ≤ maxPayloadBytes) : Served channel cmd payload seq (handle e channel cmd payload seq) := by
  cases channel with
  | i2c => exact I2c.served payload seq cmd
  | spi => exact Spi.served payload seq cmd small
  | qspi => exact Qspi.served payload seq cmd small
  | gpio => exact Gpio.served payload seq cmd
  | adc => exact Adc.served payload seq cmd

end XSDK.Bridge
