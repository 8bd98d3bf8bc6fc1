import XSDK.Trace.Cobs

/-! The frame decoder of the target against its encoder and against the host's decoder. -/
namespace XSDK.Trace

open Library
open List (append_assoc append_nil length_append length_nil length_singleton length_take)

/-- The loop of the target's decoder: the bytes left, the bytes written, and whether it
stopped early. Every round takes a code at least. -/
def cobsDecodeLoop (dstCap : Nat) : Nat → List UInt8 → List UInt8 → List UInt8 × Bool
  | _, [], dst => (dst, false)
  | 0, _ :: _, dst => (dst, false)
  | rounds + 1, code :: src, dst =>
    if code = 0 then (dst, true)
    else
      let run := code.toNat - 1
      if src.length < run ∨ dstCap - dst.length < run then (dst, true)
      else
        let dst := dst ++ src.take run
        let src := src.drop run
        if code ≠ UInt8.ofNat (cobsMaxChunk + 1) ∧ src ≠ [] then
          -- more data follows, and the implicit zero with it
          if dstCap ≤ dst.length then (dst, true) else cobsDecodeLoop dstCap rounds src (dst ++ [0])
        else cobsDecodeLoop dstCap rounds src dst

def cobsDecode (src : List UInt8) (dstCap : Nat) : List UInt8 × Bool := cobsDecodeLoop dstCap src.length src []

def hostDecodeLoop : Nat → List UInt8 → List UInt8 → List UInt8
  | _, [], output => output
  | 0, _ :: _, output => output
  | rounds + 1, code :: encoded, output =>
    if code = 0 then output
    else
      let run := code.toNat - 1
      if encoded.length < run then output
      else
        let output := output ++ encoded.take run
        let encoded := encoded.drop run
        hostDecodeLoop rounds encoded (if code ≠ 0xFF ∧ encoded ≠ [] then output ++ [0] else output)

def hostCobsDecode (encoded : List UInt8) : List UInt8 := hostDecodeLoop encoded.length encoded []

variable {src dst body : List UInt8} {bodies : List (List UInt8)} {dstCap rounds : Nat}

theorem hostDecodeLoop_eq (rounds : Nat) (encoded output : List UInt8) :
    hostDecodeLoop rounds encoded output = output ++ Cobs.decodeLoop rounds encoded := by
  induction rounds generalizing encoded output with
  | zero => cases encoded <;> simp [hostDecodeLoop, Cobs.decodeLoop]
  | succ rounds ih =>
    cases encoded with
    | nil => simp [hostDecodeLoop, Cobs.decodeLoop]
    | cons code encoded =>
      rw [hostDecodeLoop, Cobs.decodeLoop]
      by_cases zero : code = 0
      · rw [if_pos zero, if_pos zero, append_nil]
      · rw [if_neg zero, if_neg zero]
        by_cases past : encoded.length < code.toNat - 1
        · simp only [gt_iff_lt, past, if_true, append_nil]
        · simp only [gt_iff_lt, past, if_false, ih]
          split <;> simp

theorem hostCobsDecode_eq (encoded : List UInt8) : hostCobsDecode encoded = Cobs.decode encoded :=
  hostDecodeLoop_eq _ _ _

theorem length_cobsDecodeLoop (inside : dst.length ≤ dstCap) :
    (cobsDecodeLoop dstCap rounds src dst).1.length ≤ dstCap := by
  induction rounds generalizing src dst with
  | zero => cases src <;> exact inside
  | succ rounds ih =>
    cases src with
    | nil => exact inside
    | cons code src =>
      rw [cobsDecodeLoop]
      by_cases zero : code = 0
      · rw [if_pos zero]
        exact inside
      rw [if_neg zero]
      by_cases stop : src.length < code.toNat - 1 ∨ dstCap - dst.length < code.toNat - 1
      · simp only [stop, if_true]
        exact inside
      simp only [stop, if_false]
      have written : (dst ++ src.take (code.toNat - 1)).length ≤ dstCap := by
        rw [length_append, length_take]
        omega
      split
      · split
        · exact written
        · next room =>
          apply ih
          rw [length_append, length_singleton]
          omega
      · exact ih written

theorem cobsDecodeLoop_roomy (room : (dst ++ Cobs.decodeLoop rounds src).length ≤ dstCap) :
    (cobsDecodeLoop dstCap rounds src dst).1 = dst ++ Cobs.decodeLoop rounds src := by
  induction rounds generalizing src dst with
  | zero => cases src <;> simp [cobsDecodeLoop, Cobs.decodeLoop]
  | succ rounds ih =>
    cases src with
    | nil => simp [cobsDecodeLoop, Cobs.decodeLoop]
    | cons code src =>
      rw [Cobs.decodeLoop] at room ⊢
      rw [cobsDecodeLoop]
      by_cases zero : code = 0
      · simp [zero]
      simp only [if_neg zero] at room ⊢
      by_cases past : src.length < code.toNat - 1
      · simp [past]
      simp only [gt_iff_lt, past, if_false, false_or] at room ⊢
      have full : UInt8.ofNat (cobsMaxChunk + 1) = 255 := rfl
      rw [full]
      simp only [length_append, length_take] at room
      have run_fits : ¬dstCap - dst.length < code.toNat - 1 := by omega
      rw [if_neg run_fits]
      by_cases more : code ≠ 255 ∧ src.drop (code.toNat - 1) ≠ []
      · rw [if_pos more, length_singleton] at room
        have zero_fits : ¬dstCap ≤ (dst ++ src.take (code.toNat - 1)).length := by
          rw [length_append, length_take]
          omega
        rw [if_pos more, if_pos more, if_neg zero_fits, ih]
        · simp only [append_assoc]
        · simp only [length_append, length_take, length_singleton]
          omega
      · rw [if_neg more, length_nil] at room
        rw [if_neg more, if_neg more, ih]
        · simp only [append_assoc, List.nil_append]
        · simp only [length_append, length_take]
          omega

theorem chunked_of_untruncated (enough : src.length ≤ rounds) (inside : dst.length ≤ dstCap)
    (done : (cobsDecodeLoop dstCap rounds src dst).2 = false) :
    ∃ bodies, Cobs.Short bodies ∧ src = Cobs.chunked bodies ∧ dst.length + (Cobs.joined bodies).length ≤ dstCap := by
  induction rounds generalizing src dst with
  | zero =>
    obtain rfl : src = [] := List.eq_nil_of_length_eq_zero (Nat.le_zero.mp enough)
    exact ⟨[], fun _ mem => absurd mem List.not_mem_nil, rfl, inside⟩
  | succ rounds ih =>
    cases src with
    | nil => exact ⟨[], fun _ mem => absurd mem List.not_mem_nil, rfl, inside⟩
    | cons code src =>
      rw [cobsDecodeLoop] at done
      by_cases zero : code = 0
      · rw [if_pos zero] at done
        cases done
      rw [if_neg zero] at done
      by_cases stop : src.length < code.toNat - 1 ∨ dstCap - dst.length < code.toNat - 1
      · simp only [stop, if_true] at done
        cases done
      simp only [stop, if_false] at done
      rw [List.length_cons] at enough
      have code_lt := code.toNat_lt
      have code_ne : code.toNat ≠ 0 := fun none => zero (UInt8.toNat_inj.mp none)
      have length : (src.take (code.toNat - 1)).length = code.toNat - 1 := by
        rw [length_take]
        omega
      have code_eq : UInt8.ofNat ((src.take (code.toNat - 1)).length + 1) = code := by
        rw [length, Nat.sub_add_cancel (by omega), UInt8.ofNat_toNat]
      have full : code = 255 ↔ (src.take (code.toNat - 1)).length = 254 := by
        have run_short : (src.take (code.toNat - 1)).length ≤ 254 := by omega
        have told := Cobs.chunk_code_full run_short
        rwa [code_eq] at told
      have rest_short : (src.drop (code.toNat - 1)).length ≤ rounds := by
        rw [List.length_drop]
        omega
      have written : (dst ++ src.take (code.toNat - 1)).length ≤ dstCap := by
        rw [length_append, length]
        omega
      have assemble : ∀ bodies, Cobs.Short bodies → src.drop (code.toNat - 1) = Cobs.chunked bodies →
          Cobs.Short (src.take (code.toNat - 1) :: bodies) ∧
            code :: src = Cobs.chunked (src.take (code.toNat - 1) :: bodies) := by
        intro bodies short rest
        constructor
        · intro body mem
          rcases List.mem_cons.mp mem with rfl | later
          · omega
          · exact short body later
        · rw [Cobs.chunked_cons, code_eq, ← rest, List.take_append_drop]
      by_cases more : code ≠ UInt8.ofNat (cobsMaxChunk + 1) ∧ src.drop (code.toNat - 1) ≠ []
      · rw [if_pos more] at done
        by_cases no_room : dstCap ≤ (dst ++ src.take (code.toNat - 1)).length
        · rw [if_pos no_room] at done
          cases done
        rw [if_neg no_room] at done
        obtain ⟨bodies, short, rest, fits⟩ := ih rest_short (by
          rw [length_append, length_singleton]
          omega) done
        obtain ⟨short', whole⟩ := assemble bodies short rest
        refine ⟨_, short', whole, ?_⟩
        have not_full : (src.take (code.toNat - 1)).length ≠ 254 := mt full.mpr more.1
        have later : bodies ≠ [] := fun empty => more.2 (rest.trans (Cobs.chunked_eq_nil.mpr empty))
        rw [Cobs.joined, if_pos ⟨not_full, later⟩]
        simp only [length_append, length_singleton] at fits ⊢
        omega
      · rw [if_neg more] at done
        obtain ⟨bodies, short, rest, fits⟩ := ih rest_short written done
        obtain ⟨short', whole⟩ := assemble bodies short rest
        refine ⟨_, short', whole, ?_⟩
        have no_zero : ¬((src.take (code.toNat - 1)).length ≠ 254 ∧ bodies ≠ []) := by
          rintro ⟨not_full, later⟩
          refine more ⟨mt full.mp not_full, ?_⟩
          rw [rest]
          exact mt Cobs.chunked_eq_nil.mp later
        rw [Cobs.joined, if_neg no_zero]
        simp only [length_append, length_nil] at fits ⊢
        omega

theorem cobsDecodeLoop_chunked (short : Cobs.Short bodies) (enough : (Cobs.chunked bodies).length ≤ rounds)
    (fits : dst.length + (Cobs.joined bodies).length ≤ dstCap) :
    cobsDecodeLoop dstCap rounds (Cobs.chunked bodies) dst = (dst ++ Cobs.joined bodies, false) := by
  induction bodies generalizing rounds dst with
  | nil =>
    have empty : Cobs.chunked [] = [] := rfl
    rw [empty, Cobs.joined, append_nil]
    cases rounds <;> rfl
  | cons body bodies ih =>
    rw [Cobs.chunked_cons, List.length_cons, length_append] at enough
    obtain ⟨rounds, rfl⟩ : ∃ r, rounds = r + 1 :=
      Nat.exists_eq_add_of_le' (Nat.lt_of_lt_of_le (Nat.succ_pos _) enough)
    have full : UInt8.ofNat (body.length + 1) = UInt8.ofNat (cobsMaxChunk + 1) ↔ body.length = 254 :=
      Cobs.chunk_code_full short.head
    rw [Cobs.joined] at fits ⊢
    simp only [length_append] at fits
    have go : ¬((body ++ Cobs.chunked bodies).length < body.length ∨ dstCap - dst.length < body.length) := by
      rw [length_append]
      omega
    rw [Cobs.chunked_cons, cobsDecodeLoop, if_neg (Cobs.chunk_code_ne_zero short.head)]
    simp only [Cobs.toNat_chunk_code short.head, Nat.add_sub_cancel, List.take_left, List.drop_left, ne_eq, full,
      Cobs.chunked_eq_nil]
    rw [if_neg go]
    by_cases more : body.length ≠ 254 ∧ bodies ≠ []
    · rw [if_pos more, length_singleton] at fits
      have room : ¬dstCap ≤ (dst ++ body).length := by
        rw [length_append]
        omega
      rw [if_pos more, if_neg room, ih short.tail (by omega), if_pos more]
      · simp only [append_assoc]
      · simp only [length_append, length_singleton]
        omega
    · rw [if_neg more, length_nil] at fits
      rw [if_neg more, ih short.tail (by omega), if_neg more]
      · simp only [append_assoc, List.nil_append]
      · rw [length_append]
        omega

theorem cobsDecode_untruncated_iff (src : List UInt8) (dstCap : Nat) :
    (cobsDecode src dstCap).2 = false ↔
      ∃ bodies, Cobs.Short bodies ∧ src = Cobs.chunked bodies ∧ (Cobs.joined bodies).length ≤ dstCap := by
  constructor
  · intro done
    obtain ⟨bodies, short, whole, fits⟩ := chunked_of_untruncated (Nat.le_refl _) (Nat.zero_le _) done
    rw [length_nil, Nat.zero_add] at fits
    exact ⟨bodies, short, whole, fits⟩
  · rintro ⟨bodies, short, rfl, fits⟩
    rw [cobsDecode, cobsDecodeLoop_chunked short (Nat.le_refl _) (by rwa [length_nil, Nat.zero_add])]

/-- No zero hides in the bytes of a packet whose chunks are whole and fit. -/
def NoHiddenZero (src : List UInt8) (dstCap : Nat) : Prop :=
  ∀ bodies, Cobs.Short bodies → src = Cobs.chunked bodies → (Cobs.joined bodies).length ≤ dstCap →
    ∀ body ∈ bodies, 0 ∉ body

theorem zero_reported_iff (src : List UInt8) (dstCap : Nat) :
    (0 ∈ src → (cobsDecode src dstCap).2 = true) ↔ NoHiddenZero src dstCap := by
  constructor
  · rintro reported bodies short rfl fits body mem zero
    have stopped := reported ((Cobs.mem_zero_chunked short).mpr ⟨body, mem, zero⟩)
    rw [(cobsDecode_untruncated_iff _ _).mpr ⟨bodies, short, rfl, fits⟩] at stopped
    cases stopped
  · intro clean zero
    by_contra clear
    obtain ⟨bodies, short, whole, fits⟩ := (cobsDecode_untruncated_iff src dstCap).mp (Bool.eq_false_iff.mpr clear)
    obtain ⟨body, mem, inside⟩ := (Cobs.mem_zero_chunked short).mp (whole ▸ zero)
    exact clean bodies short whole fits body mem inside

theorem overrun_reported (dstCap : Nat) (past : Cobs.Overrun src) : (cobsDecode src dstCap).2 = true := by
  by_contra clear
  obtain ⟨bodies, short, rfl, _⟩ := (cobsDecode_untruncated_iff src dstCap).mp (Bool.eq_false_iff.mpr clear)
  exact Cobs.not_overrun_chunked short past

theorem overflow_reported (past : dstCap < (hostCobsDecode src).length) : (cobsDecode src dstCap).2 = true := by
  by_contra clear
  obtain ⟨bodies, short, rfl, fits⟩ := (cobsDecode_untruncated_iff src dstCap).mp (Bool.eq_false_iff.mpr clear)
  rw [hostCobsDecode_eq, Cobs.decode_chunked short] at past
  omega

theorem cobsDecode_roomy (room : (hostCobsDecode src).length ≤ dstCap) :
    (cobsDecode src dstCap).1 = hostCobsDecode src := by
  rw [hostCobsDecode_eq] at room ⊢
  exact cobsDecodeLoop_roomy room

/-- The frames of the encoder come back whole; of any packet the decoder reports a run past the
end and output without room, and a zero byte exactly where none hides in a chunk. -/
theorem cobs_codec_exact (sizeMax encodeCap decodeCap : Nat) (src : List UInt8) (packet : List UInt8) (dstCap : Nat) :
    (cobsMaxEncodedSize src.length ≤ encodeCap → encodeCap ≤ sizeMax → src.length ≤ decodeCap →
      (cobsEncode sizeMax src encodeCap).length ≤ cobsMaxEncodedSize src.length ∧
      ∃ frame, cobsEncode sizeMax src encodeCap = frame ++ [0] ∧ 0 ∉ frame ∧
        cobsDecode frame decodeCap = (src, false)) ∧
    (cobsDecode packet dstCap).1.length ≤ dstCap ∧
    (Cobs.Overrun packet → (cobsDecode packet dstCap).2 = true) ∧
    (dstCap < (hostCobsDecode packet).length → (cobsDecode packet dstCap).2 = true) ∧
    ((0 ∈ packet → (cobsDecode packet dstCap).2 = true) ↔ NoHiddenZero packet dstCap) ∧
    ((hostCobsDecode packet).length ≤ dstCap → (cobsDecode packet dstCap).1 = hostCobsDecode packet) := by
  refine ⟨fun room size room' => ?_, length_cobsDecodeLoop (Nat.zero_le _), overrun_reported dstCap, overflow_reported,
    zero_reported_iff packet dstCap, cobsDecode_roomy⟩
  obtain ⟨bodies, short, _, packed, stand⟩ := Cobs.packetFrom_chunked Cobs.open_nil src
  have encoded := cobsEncode_eq room size
  have length := @Cobs.length_packetFrom [] src Cobs.open_nil
  rw [List.length_nil, Nat.zero_add] at length
  rw [List.nil_append] at stand
  refine ⟨?_, Cobs.packet src, encoded, fun zero => Cobs.packet_nonzero src 0 zero rfl, ?_⟩
  · rw [encoded, List.length_append, List.length_singleton, cobsMaxEncodedSize, Cobs.packet]
    omega
  · rw [cobsDecode, Cobs.packet, packed, cobsDecodeLoop_chunked short (Nat.le_refl _), stand, List.nil_append]
    rw [List.length_nil, Nat.zero_add, stand]
    exact room'

/-- A zero among the bytes of a chunk is taken for data. -/
theorem cobs_zero_unreported :
    ¬∀ (src : List UInt8) (dstCap : Nat), 0 ∈ src → (cobsDecode src dstCap).2 = true := by
  intro reported
  exact absurd (reported [3, 0, 5] 16 (by decide)) (by decide)

end XSDK.Trace
