import XSDK.Bridge.Requests

/-! The frames of the binary channels: every frame that parses is answered once. -/
namespace XSDK.Bridge

open Library

variable {σ : Type}

theorem parseFrame_ok {data payload : Bytes} {frame : FrameCmd} (parsed : parseFrame data = .ok (frame, payload)) :
    payload.length = frame.length ∧ frame.length ≤ maxPayloadBytes := by
  unfold parseFrame at parsed
  split at parsed
  · cases parsed
  · dsimp only at parsed
    split at parsed
    · cases parsed
    · split at parsed
      · cases parsed
      · rename_i room small
        cases parsed
        refine ⟨?_, Nat.not_lt.mp small⟩
        rw [List.length_take, List.length_drop]
        have enough : frameHeaderBytes + le16 data 2 ≤ data.length := Nat.not_lt.mp room
        exact Nat.min_eq_left (by omega)

/-- The fields of a response are the channel, the sequence number and the count of the bytes
behind the header. -/
structure Responds (channel : Channel) (seq : Word32) (bytes : Bytes) : Prop where
  header : frameHeaderBytes ≤ bytes.length
  channel : byteAt bytes 0 = channel.code
  length : le16 bytes 2 = bytes.length - frameHeaderBytes
  seq : le32 bytes 4 = seq

theorem halves (n : Nat) (short : n < 65536) : (UInt8.ofNat n).toNat + 256 * (UInt8.ofNat (n / 256)).toNat = n := by
  rw [UInt8.toNat_ofNat', UInt8.toNat_ofNat']
  omega

theorem frameResp_responds (channel : Channel) (status : UInt8) (seq : Word32) {body : Bytes}
    (le : body.length ≤ maxPayloadBytes) : Responds channel seq (frameResp channel.code status seq body) := by
  have short : body.length < 65536 := Nat.lt_of_le_of_lt le (by decide)
  have long : (frameResp channel.code status seq body).length = frameHeaderBytes + body.length := by
    simp [frameResp, le16Bytes, le32Bytes, frameHeaderBytes]
    omega
  have low : seq.toNat % 65536 < 65536 := Nat.mod_lt _ (by decide)
  have high : seq.toNat / 65536 < 65536 := by
    have bound := seq.isLt
    omega
  have lowField : le16 (frameResp channel.code status seq body) 4 = seq.toNat % 65536 := by
    show (UInt8.ofNat seq.toNat).toNat + 256 * (UInt8.ofNat (seq.toNat / 256)).toNat = _
    rw [UInt8.toNat_ofNat', UInt8.toNat_ofNat']
    omega
  have highField : le16 (frameResp channel.code status seq body) 6 = seq.toNat / 65536 := halves _ high
  refine ⟨?_, rfl, ?_, ?_⟩
  · rw [long]
    exact Nat.le_add_right _ _
  · rw [long, Nat.add_sub_cancel_left]
    exact halves _ short
  · apply BitVec.eq_of_toNat_eq
    have bound := seq.isLt
    have value : le16 (frameResp channel.code status seq body) 4 +
        65536 * le16 (frameResp channel.code status seq body) (4 + 2) = seq.toNat := by
      show _ + 65536 * le16 (frameResp channel.code status seq body) 6 = _
      rw [lowField, highField]
      omega
    unfold le32
    rw [value, BitVec.toNat_ofNat, Nat.mod_eq_of_lt bound]

def responses : List Event → List Bytes
  | [] => []
  | .op _ _ :: events => responses events
  | .sent bytes :: events => bytes :: responses events

theorem responses_record (asked : List (Op × Bool)) (bytes : Bytes) :
    responses (record asked ++ [.sent bytes]) = [bytes] := by
  induction asked with
  | nil => rfl
  | cons p asked ih => exact ih

theorem mem_record {asked : List (Op × Bool)} {bytes : Bytes} {op : Op} {ok : Bool} :
    Event.op op ok ∈ record asked ++ [.sent bytes] ↔ (op, ok) ∈ asked := by
  simp [record]

/-- Every frame that parses gets one response with its fields right; an error has no data, and
is the answer exactly to requests that are not in order and to operations that fail. -/
theorem frames_answered (e : Env σ) (channel : Channel) (data : Bytes) (s : World σ) :
    ∃ events, (onUsbReceive e channel data s).2.log = s.log ++ events ∧
      (∀ code, parseFrame data = .error code → events = []) ∧
      ∀ frame payload, parseFrame data = .ok (frame, payload) →
        (∀ op ok, .op op ok ∈ events → (∀ span ∈ op.receives, span.Holds) ∧
          (Within channel frame.cmd payload → ∀ span ∈ op.sends, span.InPayload frame.length)) ∧
        ∃ bytes, responses events = [bytes] ∧ Responds channel frame.seq bytes ∧
          (byteAt bytes 1 = statusOk ∨ (byteAt bytes 1 = statusError ∧ bytes.length = frameHeaderBytes)) ∧
          (Within channel frame.cmd payload →
            (byteAt bytes 1 = statusError ↔ ¬WellFormed channel frame.cmd payload ∨
              ∃ op, .op op false ∈ events ∧ ¬Tolerated channel frame.cmd op)) := by
  rcases parsed : parseFrame data with code | ⟨frame, payload⟩
  · refine ⟨[], ?_, fun _ _ => rfl, nofun⟩
    rw [onUsbReceive, parsed, List.append_nil]
    rfl
  · obtain ⟨length, small⟩ := parseFrame_ok parsed
    obtain ⟨asked, status, body, log, exchange⟩ :=
      served (e := e) channel frame.cmd payload frame.seq (Nat.le_trans (Nat.le_of_eq length) small) s
    refine ⟨record asked ++ [.sent (frameResp channel.code status frame.seq body)], ?_, nofun, ?_⟩
    · rw [onUsbReceive, parsed, ← List.append_assoc]
      exact log
    · intro frame' payload' same
      cases same
      refine ⟨fun op ok mem => ?_, _, responses_record _ _, frameResp_responds _ _ _ exchange.body_le, ?_, fun within => ?_⟩
      · obtain ⟨sends, receives⟩ := exchange.bounded _ (mem_record.mp mem)
        refine ⟨receives, fun within span mem => ?_⟩
        rw [← length]
        exact sends within span mem
      · rcases exchange.plain with ok | ⟨failed, none⟩
        · exact .inl ok
        · refine .inr ⟨failed, ?_⟩
          rw [none]
          rfl
      · refine (exchange.verdict within).trans (or_congr Iff.rfl ?_)
        constructor
        · rintro ⟨⟨op, ok⟩, mem, failed, strict⟩
          cases failed
          exact ⟨op, mem_record.mpr mem, strict⟩
        · rintro ⟨op, mem, strict⟩
          exact ⟨(op, false), mem_record.mp mem, rfl, strict⟩

/-- Peripherals that all answer alike, and a USB side that takes everything. -/
def alike (ok : Bool) : Env Unit where
  op _ _ := (⟨ok, fun _ => 0⟩, ())
  send _ _ := (.ok (), ())

def idleWorld : World Unit := ⟨(), 12, []⟩

/-- A scan reads into a variable of its own, and reports no error although every read fails. A
QSPI transfer of four bytes is given more than the payload. -/
theorem scan_tolerates :
    ((∃ bytes, responses (onUsbReceive (alike false) .i2c [1, 4, 0, 0, 7, 0, 0, 0] idleWorld).2.log = [bytes] ∧
        byteAt bytes 1 = statusOk) ∧
      .op (.i2cRead 1 ⟨.own 1, 0, 1⟩) false ∈
        (onUsbReceive (alike false) .i2c [1, 4, 0, 0, 7, 0, 0, 0] idleWorld).2.log) ∧
    .op (.qspiTransfer 1 0 0#32 0#32 (some (payloadSpan 12 4)) (respSpan 4)) true ∈
      (onUsbReceive (alike true) .qspi [4, 1, 12, 0, 7, 0, 0, 0, 1, 0, 0, 0, 0, 0, 0, 0, 0, 0, 4, 0] idleWorld).2.log := by
  refine ⟨⟨⟨frameResp 1 0 7#32 [], ?_, rfl⟩, ?_⟩, ?_⟩ <;> decide +kernel

end XSDK.Bridge
