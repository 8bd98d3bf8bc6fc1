import Mathlib.Data.List.Basic

/-! Consistent overhead byte stuffing: a packet without zero bytes for any list of bytes. A
chunk of at most 254 bytes follows a code that tells its length; a code below 255 stands for
a zero after its chunk, the last one apart. -/
namespace XSDK.Library.Cobs

open List (append_assoc cons_ne_nil length_append length_cons mem_append mem_cons mem_singleton)

/-- The packet of the bytes, given the bytes of the open chunk. -/
def packetFrom (chunk : List UInt8) : List UInt8 → List UInt8
  | [] => UInt8.ofNat (chunk.length + 1) :: chunk
  | b :: rest =>
    if b = 0 then UInt8.ofNat (chunk.length + 1) :: (chunk ++ packetFrom [] rest)
    else if chunk.length = 253 then 255 :: (chunk ++ [b] ++ packetFrom [] rest)
    else packetFrom (chunk ++ [b]) rest

def packet (bytes : List UInt8) : List UInt8 := packetFrom [] bytes

/-- Every round takes the code of a chunk at least. -/
def decodeLoop : Nat → List UInt8 → List UInt8
  | _, [] => []
  | 0, _ :: _ => []
  | rounds + 1, code :: rest =>
    if code = 0 then []
    else
      let run := code.toNat - 1
      if run > rest.length then []
      else
        rest.take run ++
          ((if code ≠ 255 ∧ rest.drop run ≠ [] then [0] else []) ++ decodeLoop rounds (rest.drop run))

def decode (bytes : List UInt8) : List UInt8 := decodeLoop bytes.length bytes

variable {chunk bytes rest : List UInt8} {rounds : Nat}

/-- An open chunk: short, and without zeros. -/
structure Open (chunk : List UInt8) : Prop where
  short : chunk.length ≤ 253
  nonzero : ∀ b ∈ chunk, b ≠ 0

theorem open_nil : Open [] := ⟨Nat.zero_le _, fun _ mem => absurd mem List.not_mem_nil⟩

theorem Open.snoc {b : UInt8} (opened : Open chunk) (nonzero : b ≠ 0) (room : chunk.length ≠ 253) :
    Open (chunk ++ [b]) := by
  constructor
  · have short := opened.short
    rw [length_append, List.length_singleton]
    omega
  · intro x mem
    rcases mem_append.mp mem with old | new
    · exact opened.nonzero x old
    · rw [mem_singleton.mp new]
      exact nonzero

theorem toNat_chunk_code (short : chunk.length ≤ 254) :
    (UInt8.ofNat (chunk.length + 1)).toNat = chunk.length + 1 := by
  rw [UInt8.toNat_ofNat']
  exact Nat.mod_eq_of_lt (by omega)

theorem chunk_code_ne_zero (short : chunk.length ≤ 254) : UInt8.ofNat (chunk.length + 1) ≠ 0 := by
  intro zero
  have value := toNat_chunk_code short
  rw [zero] at value
  exact absurd value (Nat.succ_ne_zero _).symm

theorem chunk_code_full (short : chunk.length ≤ 254) : UInt8.ofNat (chunk.length + 1) = 255 ↔ chunk.length = 254 := by
  have last : (255 : UInt8).toNat = 255 := rfl
  rw [← UInt8.toNat_inj, toNat_chunk_code short, last]
  omega

theorem code_ne_zero (opened : Open chunk) : UInt8.ofNat (chunk.length + 1) ≠ 0 :=
  chunk_code_ne_zero (Nat.le_succ_of_le opened.short)

theorem packetFrom_nonzero (opened : Open chunk) : ∀ b ∈ packetFrom chunk bytes, b ≠ 0 := by
  induction bytes generalizing chunk with
  | nil =>
    intro b mem
    rcases mem_cons.mp mem with rfl | inside
    · exact code_ne_zero opened
    · exact opened.nonzero b inside
  | cons x rest ih =>
    intro b mem
    rw [packetFrom] at mem
    split at mem
    · rcases mem_cons.mp mem with rfl | inside
      · exact code_ne_zero opened
      · rcases mem_append.mp inside with old | later
        · exact opened.nonzero b old
        · exact ih open_nil b later
    · next nonzero =>
      split at mem
      · rcases mem_cons.mp mem with rfl | inside
        · decide
        · rcases mem_append.mp inside with old | later
          · rcases mem_append.mp old with older | last
            · exact opened.nonzero b older
            · rw [mem_singleton.mp last]
              exact nonzero
          · exact ih open_nil b later
      · next room => exact ih (opened.snoc nonzero room) b mem

theorem packet_nonzero (bytes : List UInt8) : ∀ b ∈ packet bytes, b ≠ 0 := packetFrom_nonzero open_nil

theorem decodeLoop_chunk (short : chunk.length ≤ 254) (rounds : Nat) (rest : List UInt8) :
    decodeLoop (rounds + 1) (UInt8.ofNat (chunk.length + 1) :: (chunk ++ rest)) =
      chunk ++ ((if chunk.length ≠ 254 ∧ rest ≠ [] then [0] else []) ++ decodeLoop rounds rest) := by
  have fits : ¬ chunk.length > (chunk ++ rest).length := by
    rw [length_append]
    omega
  rw [decodeLoop, if_neg (chunk_code_ne_zero short)]
  simp only [toNat_chunk_code short, Nat.add_sub_cancel, List.take_left, List.drop_left, ne_eq, chunk_code_full short]
  rw [if_neg fits]

/-- A packet has one code for every full chunk and one for the last. -/
theorem length_packetFrom (opened : Open chunk) :
    (packetFrom chunk bytes).length ≤ chunk.length + bytes.length + 1 + (chunk.length + bytes.length) / 254 := by
  induction bytes generalizing chunk with
  | nil =>
    rw [packetFrom, length_cons, List.length_nil]
    omega
  | cons b rest ih =>
    have later := ih open_nil
    rw [List.length_nil, Nat.zero_add] at later
    rw [packetFrom, length_cons]
    split
    · rw [length_cons, length_append]
      omega
    · next nonzero =>
      split
      · rw [length_cons, length_append, length_append, List.length_singleton]
        omega
      · next room =>
        have grown := ih (opened.snoc nonzero room)
        rw [length_append, List.length_singleton] at grown
        omega

/- Packets as a list of chunks, whoever made them. -/

/-- The chunks with their codes. -/
def chunked (bodies : List (List UInt8)) : List UInt8 :=
  bodies.flatMap fun body => UInt8.ofNat (body.length + 1) :: body

/-- The bytes that the chunks stand for. -/
def joined : List (List UInt8) → List UInt8
  | [] => []
  | body :: rest => body ++ ((if body.length ≠ 254 ∧ rest ≠ [] then [0] else []) ++ joined rest)

/-- Chunks that a code can tell the length of. -/
def Short (bodies : List (List UInt8)) : Prop := ∀ body ∈ bodies, body.length ≤ 254

variable {body : List UInt8} {bodies bodies' : List (List UInt8)}

theorem chunked_cons (body : List UInt8) (bodies : List (List UInt8)) :
    chunked (body :: bodies) = UInt8.ofNat (body.length + 1) :: (body ++ chunked bodies) := by
  rw [chunked, List.flatMap_cons, List.cons_append]
  rfl

theorem chunked_eq_nil : chunked bodies = [] ↔ bodies = [] := by
  cases bodies with
  | nil => exact Iff.intro (fun _ => rfl) fun _ => rfl
  | cons body bodies =>
    rw [chunked_cons]
    exact Iff.intro nofun nofun

theorem Short.head (short : Short (body :: bodies)) : body.length ≤ 254 := short body List.mem_cons_self
theorem Short.tail (short : Short (body :: bodies)) : Short bodies :=
  fun other mem => short other (List.mem_cons_of_mem _ mem)

theorem decodeLoop_chunked (short : Short bodies) (enough : (chunked bodies).length ≤ rounds) :
    decodeLoop rounds (chunked bodies) = joined bodies := by
  induction bodies generalizing rounds with
  | nil => cases rounds <;> rfl
  | cons body bodies ih =>
    rw [chunked_cons, length_cons, length_append] at enough
    obtain ⟨rounds, rfl⟩ : ∃ r, rounds = r + 1 :=
      Nat.exists_eq_add_of_le' (Nat.lt_of_lt_of_le (Nat.succ_pos _) enough)
    rw [chunked_cons, decodeLoop_chunk short.head, ih short.tail (by omega), joined]
    simp only [ne_eq, chunked_eq_nil]

theorem decode_chunked (short : Short bodies) : decode (chunked bodies) = joined bodies :=
  decodeLoop_chunked short (Nat.le_refl _)

theorem packetFrom_chunked (opened : Open chunk) (bytes : List UInt8) :
    ∃ bodies, Short bodies ∧ bodies ≠ [] ∧ packetFrom chunk bytes = chunked bodies ∧
    joined bodies = chunk ++ bytes := by
  induction bytes generalizing chunk with
  | nil =>
    have short : Short [chunk] := by
      intro body mem
      rw [mem_singleton.mp mem]
      exact Nat.le_succ_of_le opened.short
    refine ⟨[chunk], short, cons_ne_nil _ _, ?_, ?_⟩
    · rw [packetFrom, chunked_cons, chunked, List.flatMap_nil, List.append_nil]
    · simp [joined]
  | cons b rest ih =>
    obtain ⟨bodies, short, some, packed, stand⟩ := ih open_nil
    have push : ∀ body : List UInt8, body.length ≤ 254 → Short (body :: bodies) := by
      intro body small other mem
      rcases mem_cons.mp mem with rfl | later
      · exact small
      · exact short other later
    have chunk_short := opened.short
    rw [packetFrom]
    by_cases zero : b = 0
    · have not_full : chunk.length ≠ 254 := by omega
      refine ⟨chunk :: bodies, push chunk (by omega), cons_ne_nil _ _, ?_, ?_⟩
      · rw [if_pos zero, packed, chunked_cons]
      · rw [joined, if_pos ⟨not_full, some⟩, stand, zero, List.nil_append]
        rfl
    rw [if_neg zero]
    by_cases full : chunk.length = 253
    · have length : (chunk ++ [b]).length = 254 := by
        rw [length_append, full]
        rfl
      have not_zero : ¬((chunk ++ [b]).length ≠ 254 ∧ bodies ≠ []) := fun more => more.1 length
      refine ⟨(chunk ++ [b]) :: bodies, push _ (Nat.le_of_eq length), cons_ne_nil _ _, ?_, ?_⟩
      · rw [if_pos full, packed, chunked_cons, length]
        rfl
      · rw [joined, if_neg not_zero, stand, append_assoc]
        rfl
    · obtain ⟨bodies, short, some, packed, stand⟩ := ih (opened.snoc zero full)
      refine ⟨bodies, short, some, ?_, ?_⟩
      · rw [if_neg full, packed]
      · rw [stand, append_assoc]
        rfl

theorem decode_packet (bytes : List UInt8) : decode (packet bytes) = bytes := by
  obtain ⟨bodies, short, _, packed, stand⟩ := packetFrom_chunked open_nil bytes
  rw [packet, packed, decode_chunked short, stand, List.nil_append]

/-- A chunk that runs past the end of the packet. -/
def Overrun (bytes : List UInt8) : Prop :=
  ∃ bodies code rest, Short bodies ∧ bytes = chunked bodies ++ code :: rest ∧ code ≠ 0 ∧ rest.length < code.toNat - 1

theorem not_overrun_chunked (short : Short bodies) : ¬Overrun (chunked bodies) := by
  rintro ⟨front, code, rest, front_short, split, nonzero, past⟩
  induction front generalizing bodies with
  | nil =>
    cases bodies with
    | nil => cases split
    | cons body bodies =>
      rw [chunked_cons] at split
      obtain ⟨rfl, rfl⟩ := List.cons.inj split
      rw [toNat_chunk_code short.head, length_append] at past
      omega
  | cons first front ih =>
    cases bodies with
    | nil =>
      rw [chunked_cons] at split
      cases split
    | cons body bodies =>
      rw [chunked_cons, chunked_cons, List.cons_append, append_assoc] at split
      obtain ⟨codes, rests⟩ := List.cons.inj split
      have lengths : body.length = first.length := by
        have values := congrArg UInt8.toNat codes
        rw [toNat_chunk_code short.head, toNat_chunk_code front_short.head] at values
        omega
      exact ih short.tail front_short.tail (List.append_inj rests lengths).2

theorem mem_zero_chunked (short : Short bodies) : 0 ∈ chunked bodies ↔ ∃ body ∈ bodies, 0 ∈ body := by
  rw [chunked, List.mem_flatMap]
  constructor
  · rintro ⟨body, mem, zero⟩
    rcases mem_cons.mp zero with code | inside
    · exact absurd code.symm (chunk_code_ne_zero (short body mem))
    · exact ⟨body, mem, inside⟩
  · rintro ⟨body, mem, zero⟩
    exact ⟨body, mem, List.mem_cons_of_mem _ zero⟩

end XSDK.Library.Cobs
