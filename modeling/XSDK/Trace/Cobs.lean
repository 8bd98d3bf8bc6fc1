import XSDK.Library.Cobs
import XSDK.Trace.Wire

/-! The framing of the stream for a transport that loses bytes: the encoder of the target,
and the host's reader of framed streams. -/
namespace XSDK.Trace

open Library
open List (append_assoc cons_append length_append)

/-- Bytes written so far, where the open chunk's code goes, and the code itself. -/
structure CobsEncoder where
  dst : List UInt8
  overheadPos : Nat
  code : UInt8

def cobsMaxChunk : Nat := 254

def cobsMaxEncodedSize (n : Nat) : Nat := n + n / 254 + 2

def CobsEncoder.close (s : CobsEncoder) : CobsEncoder where
  dst := s.dst.set s.overheadPos s.code ++ [0]
  overheadPos := s.dst.length
  code := 1

def CobsEncoder.put (s : CobsEncoder) (b : UInt8) : CobsEncoder :=
  if b = 0 then s.close
  else
    let s := { s with dst := s.dst ++ [b], code := s.code + 1 }
    if s.code = 255 then s.close else s

/-- Nothing is written when the sizes do not add up or do not fit. -/
def cobsEncode (sizeMax : Nat) (src : List UInt8) (dstCap : Nat) : List UInt8 :=
  if src.length > sizeMax - src.length / cobsMaxChunk - 2 then []
  else if dstCap < cobsMaxEncodedSize src.length then []
  else
    let s := src.foldl CobsEncoder.put ⟨[0], 0, 1⟩
    s.dst.set s.overheadPos s.code ++ [0]

/-- The adapter's frame for the bytes that a flush offers. -/
def adapterFrame (sizeMax : Nat) (offered : List UInt8) : List UInt8 :=
  cobsEncode sizeMax offered (cobsMaxEncodedSize offered.length)

def frameRecords (frame : List UInt8) : List RawRecord :=
  let decoded := Cobs.decode frame
  if decoded = [] then [] else (recordsFromStream decoded).1

def recordsFromCobsStream (frameBuf : List UInt8) : List UInt8 → List RawRecord
  | [] => []
  | b :: rest =>
    if b = 0 then (if frameBuf = [] then [] else frameRecords frameBuf) ++ recordsFromCobsStream [] rest
    else recordsFromCobsStream (frameBuf ++ [b]) rest

variable {closed chunk src frame frameBuf rest : List UInt8}

theorem set_code (closed chunk : List UInt8) (code : UInt8) :
    (closed ++ 0 :: chunk).set closed.length code = closed ++ code :: chunk := by
  induction closed with
  | nil => rfl
  | cons b closed ih => rw [cons_append, List.length_cons, List.set_cons_succ, ih, cons_append]

def openEncoder (closed chunk : List UInt8) : CobsEncoder :=
  ⟨closed ++ 0 :: chunk, closed.length, UInt8.ofNat (chunk.length + 1)⟩

theorem close_eq (closed chunk : List UInt8) :
    (openEncoder closed chunk).close = openEncoder (closed ++ UInt8.ofNat (chunk.length + 1) :: chunk) [] := by
  simp only [CobsEncoder.close, openEncoder, set_code, length_append, List.length_cons, List.length_nil]
  rfl

theorem put_zero (closed chunk : List UInt8) :
    (openEncoder closed chunk).put 0 = openEncoder (closed ++ UInt8.ofNat (chunk.length + 1) :: chunk) [] := by
  rw [CobsEncoder.put, if_pos rfl, close_eq]

theorem put_byte {b : UInt8} (nonzero : b ≠ 0) (opened : Cobs.Open chunk) :
    (openEncoder closed chunk).put b =
      if chunk.length = 253 then openEncoder (closed ++ 255 :: (chunk ++ [b])) []
      else openEncoder closed (chunk ++ [b]) := by
  have grown : CobsEncoder.mk ((openEncoder closed chunk).dst ++ [b]) closed.length
      ((openEncoder closed chunk).code + 1) = openEncoder closed (chunk ++ [b]) := by
    simp only [openEncoder, append_assoc, cons_append, length_append, List.length_singleton, UInt8.ofNat_add]
    rfl
  have value : (openEncoder closed (chunk ++ [b])).code = UInt8.ofNat (chunk.length + 2) := by
    rw [openEncoder, length_append]
    rfl
  have short := opened.short
  have code_full : UInt8.ofNat (chunk.length + 2) = 255 ↔ chunk.length = 253 := by
    rw [← UInt8.toNat_inj, UInt8.toNat_ofNat']
    have last : (255 : UInt8).toNat = 255 := rfl
    omega
  rw [CobsEncoder.put, if_neg nonzero]
  change (if (CobsEncoder.mk ((openEncoder closed chunk).dst ++ [b]) closed.length
      ((openEncoder closed chunk).code + 1)).code = 255 then CobsEncoder.close (CobsEncoder.mk
        ((openEncoder closed chunk).dst ++ [b]) closed.length ((openEncoder closed chunk).code + 1))
      else _) = _
  rw [grown, value, close_eq]
  by_cases full : chunk.length = 253
  · have length : (chunk ++ [b]).length = 254 := by
      rw [length_append, full]
      rfl
    rw [if_pos (code_full.mpr full), if_pos full, length]
    rfl
  · rw [if_neg (mt code_full.mp full), if_neg full]
    exact grown

theorem encoder_ends (opened : Cobs.Open chunk) (src : List UInt8) :
    let s := src.foldl CobsEncoder.put (openEncoder closed chunk)
    s.dst.set s.overheadPos s.code = closed ++ Cobs.packetFrom chunk src := by
  induction src generalizing closed chunk with
  | nil => exact set_code closed chunk _
  | cons b src ih =>
    rw [List.foldl_cons, Cobs.packetFrom]
    by_cases zero : b = 0
    · have ends := @ih (closed ++ UInt8.ofNat (chunk.length + 1) :: chunk) [] Cobs.open_nil
      rw [zero, put_zero, if_pos rfl]
      rw [append_assoc] at ends
      exact ends
    · rw [put_byte zero opened, if_neg zero]
      by_cases full : chunk.length = 253
      · have ends := @ih (closed ++ 255 :: (chunk ++ [b])) [] Cobs.open_nil
        rw [if_pos full, if_pos full]
        rw [append_assoc] at ends
        exact ends
      · rw [if_neg full, if_neg full]
        exact ih (opened.snoc zero full)

theorem cobsEncode_eq {sizeMax dstCap : Nat} (room : cobsMaxEncodedSize src.length ≤ dstCap)
    (size : dstCap ≤ sizeMax) :
    cobsEncode sizeMax src dstCap = Cobs.packet src ++ [0] := by
  have ends := @encoder_ends [] [] Cobs.open_nil src
  rw [cobsMaxEncodedSize] at room
  rw [cobsEncode, cobsMaxChunk, if_neg (by omega), cobsMaxEncodedSize, if_neg (by omega)]
  rw [List.nil_append] at ends
  rw [Cobs.packet, ← ends]
  rfl

theorem adapterFrame_eq {sizeMax : Nat} (fits : cobsMaxEncodedSize src.length ≤ sizeMax) :
    adapterFrame sizeMax src = Cobs.packet src ++ [0] :=
  cobsEncode_eq (Nat.le_refl _) fits

theorem frameRecords_packet (src : List UInt8) : frameRecords (Cobs.packet src) = (recordsFromStream src).1 := by
  rw [frameRecords, Cobs.decode_packet]
  split
  · next empty =>
    rw [empty]
    rfl
  · rfl

theorem recordsFromCobsStream_frame (nonzero : ∀ b ∈ frame, b ≠ 0) (frameBuf rest : List UInt8) :
    recordsFromCobsStream frameBuf (frame ++ 0 :: rest) =
      frameRecords (frameBuf ++ frame) ++ recordsFromCobsStream [] rest := by
  induction frame generalizing frameBuf with
  | nil =>
    rw [List.nil_append, List.append_nil, recordsFromCobsStream, if_pos rfl]
    split
    · next empty =>
      rw [empty]
      rfl
    · rfl
  | cons b frame ih =>
    have later := ih (fun x mem => nonzero x (List.mem_cons_of_mem _ mem)) (frameBuf ++ [b])
    rw [cons_append, recordsFromCobsStream, if_neg (nonzero b List.mem_cons_self), later, append_assoc]
    rfl

theorem recordsFromCobsStream_frames {frames : List (List UInt8)} (nonzero : ∀ f ∈ frames, ∀ b ∈ f, b ≠ 0)
    (rest : List UInt8) :
    recordsFromCobsStream [] (frames.flatMap (· ++ [0]) ++ rest) =
      frames.flatMap frameRecords ++ recordsFromCobsStream [] rest := by
  induction frames with
  | nil => rfl
  | cons frame frames ih =>
    have later := ih fun f mem => nonzero f (List.mem_cons_of_mem _ mem)
    have head := recordsFromCobsStream_frame (nonzero frame List.mem_cons_self) []
      (frames.flatMap (· ++ [0]) ++ rest)
    rw [List.flatMap_cons, List.flatMap_cons, append_assoc, append_assoc, append_assoc, ← later]
    exact head

end XSDK.Trace
