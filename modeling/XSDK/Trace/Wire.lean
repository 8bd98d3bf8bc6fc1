import XSDK.Trace.Defs

/-! The host's reader of a captured stream. -/
namespace XSDK.Trace

open Library

/-- Why a record could not be read: the two kinds of exception, the first one clean or not. -/
inductive ReadError where
  | cleanEof
  | truncated
  | corrupt
  deriving DecidableEq, Repr

structure RawRecord where
  eventId : Nat
  deltaTs : Nat
  params : List Nat
  deriving DecidableEq, Repr

abbrev Reading (α : Type) := Except ReadError (α × List UInt8)

def readLeb128Loop (value shift : Nat) : List UInt8 → Reading Nat
  | [] => .error .truncated
  | b :: rest =>
    let value := value ||| (b.toNat % 128) <<< shift
    if b.toNat < 128 then .ok (value, rest)
    else if shift + 7 ≥ 35 then .error .corrupt
    else readLeb128Loop value (shift + 7) rest

def readLeb128 (bytes : List UInt8) : Reading Nat := readLeb128Loop 0 0 bytes

/-- The rest of a length prefix whose last byte had its high bit set. -/
def readPrefixLoop (recordLen shift : Nat) : List UInt8 → Reading Nat
  | [] => .error .truncated
  | b :: rest =>
    let recordLen := recordLen ||| (b.toNat % 128) <<< shift
    -- The bound is tested before the high bit is: a prefix of five bytes never passes.
    if shift + 7 ≥ 35 then .error .corrupt
    else if b.toNat < 128 then .ok (recordLen, rest)
    else readPrefixLoop recordLen (shift + 7) rest

def readPrefix : List UInt8 → Reading Nat
  | [] => .error .cleanEof
  | b :: rest => if b.toNat < 128 then .ok (b.toNat % 128, rest) else readPrefixLoop (b.toNat % 128) 7 rest

/-- The remaining bytes of a payload, a number after the other; every round takes a byte. -/
def readParams : Nat → List UInt8 → Except ReadError (List Nat)
  | _, [] => .ok []
  | 0, _ => .ok []
  | rounds + 1, bytes => do
    let (v, rest) ← readLeb128 bytes
    let params ← readParams rounds rest
    return v :: params

def readPayload (payload : List UInt8) : Except ReadError RawRecord := do
  let (eventId, rest) ← readLeb128 payload
  let (deltaTs, rest) ← readLeb128 rest
  let params ← readParams rest.length rest
  return ⟨eventId, deltaTs, params⟩

def readOneRecord (bytes : List UInt8) : Except ReadError (RawRecord × List UInt8) := do
  let (recordLen, rest) ← readPrefix bytes
  if rest.length < recordLen then throw .truncated
  let record ← readPayload (rest.take recordLen)
  return (record, rest.drop recordLen)

/-- The records up to the first that cannot be read, and why there is no other; every
round takes a byte. -/
def recordsLoop : Nat → List UInt8 → List RawRecord × ReadError
  | 0, _ => ([], .cleanEof)
  | rounds + 1, bytes =>
    match readOneRecord bytes with
    | .error error => ([], error)
    | .ok (record, rest) =>
      let (records, error) := recordsLoop rounds rest
      (record :: records, error)

def recordsFromStream (bytes : List UInt8) : List RawRecord × ReadError := recordsLoop (bytes.length + 1) bytes

end XSDK.Trace

/-! Records on the wire, and that the host reads them back. -/
namespace XSDK.Trace

open Library
open List (append_assoc cons_append length_append length_cons singleton_append)

namespace RawRecord

def payload (r : RawRecord) : List UInt8 :=
  Leb128.encode r.eventId ++ (Leb128.encode r.deltaTs ++ r.params.flatMap Leb128.encode)

/-- Words of 32 bits, and a payload whose length the reader's prefix loop accepts. -/
structure Readable (r : RawRecord) : Prop where
  eventId : r.eventId < 2 ^ 32
  deltaTs : r.deltaTs < 2 ^ 32
  params : ∀ v ∈ r.params, v < 2 ^ 32
  short : r.payload.length < 2 ^ 28

end RawRecord

def wire (records : List RawRecord) : List UInt8 := Prefixed.stream (records.map RawRecord.payload)

@[simp] theorem wire_nil : wire [] = [] := rfl

@[simp] theorem wire_append (a b : List RawRecord) : wire (a ++ b) = wire a ++ wire b := by
  simp [wire]

theorem wire_cons (r : RawRecord) (rs : List RawRecord) : wire (r :: rs) = Prefixed.block r.payload ++ wire rs := rfl

variable {v value shift : Nat} {rest : List UInt8}

theorem or_shift {x : Nat} (small : value < 2 ^ shift) : value ||| x <<< shift = value + x * 2 ^ shift := by
  rw [Nat.or_comm, ← Nat.shiftLeft_add_eq_or_of_lt small, Nat.shiftLeft_eq, Nat.add_comm]

theorem or_shift_lt {x : Nat} (small : value < 2 ^ shift) (group : x < 128) :
    value ||| x <<< shift < 2 ^ (shift + 7) := by
  have le : x * 2 ^ shift ≤ 127 * 2 ^ shift := Nat.mul_le_mul_right _ (by omega)
  rw [or_shift small, Nat.pow_add]
  omega

theorem group_sum (value v shift : Nat) :
    value + v % 128 * 2 ^ shift + v / 128 * 2 ^ (shift + 7) = value + v * 2 ^ shift := by
  have split : v = v % 128 + 128 * (v / 128) := (Nat.mod_add_div v 128).symm
  have pow : v / 128 * 2 ^ (shift + 7) = 128 * (v / 128) * 2 ^ shift := by
    rw [Nat.pow_add, Nat.mul_comm (2 ^ shift), ← Nat.mul_assoc, Nat.mul_comm (v / 128)]
  rw [pow, Nat.add_assoc, ← Nat.add_mul, ← split]

theorem toNat_more (v : Nat) : (UInt8.ofNat (v % 128 + 128)).toNat = v % 128 + 128 :=
  Leb128.toNat_ofNat_of_lt (by omega)

theorem low_more (v : Nat) : (v % 128 + 128) % 128 = v % 128 := by omega

theorem readLeb128Loop_encode (small : value < 2 ^ shift) (fits : shift + 7 * Leb128.size v ≤ 35) :
    readLeb128Loop value shift (Leb128.encode v ++ rest) = .ok (value + v * 2 ^ shift, rest) := by
  induction v using Leb128.groups generalizing value shift with
  | last v last =>
    have byte := Leb128.toNat_ofNat_of_lt (v := v) (by omega)
    rw [Leb128.encode_of_lt last, singleton_append, readLeb128Loop]
    simp only [byte, Nat.mod_eq_of_lt last, or_shift small, if_pos last]
  | more v big ih =>
    have pos := Leb128.size_pos (v / 128)
    rw [Leb128.size_of_le big] at fits
    have step := ih (or_shift_lt (x := v % 128) small (by omega)) (by omega)
    rw [Leb128.encode_of_le big, cons_append, readLeb128Loop]
    simp only [toNat_more, low_more]
    rw [if_neg (by omega), if_neg (by omega), step, or_shift small, group_sum]

theorem readLeb128_encode (word : v < 2 ^ 32) (rest : List UInt8) :
    readLeb128 (Leb128.encode v ++ rest) = .ok (v, rest) := by
  have size : Leb128.size v ≤ 4 + 1 := Leb128.size_le_iff.mpr (by omega)
  have first : 0 < 2 ^ 0 := by decide
  have read : readLeb128Loop 0 0 (Leb128.encode v ++ rest) = .ok (0 + v * 2 ^ 0, rest) :=
    readLeb128Loop_encode first (by omega)
  rwa [Nat.zero_add, Nat.pow_zero, Nat.mul_one] at read

theorem readPrefixLoop_encode (small : value < 2 ^ shift) (fits : shift + 7 * Leb128.size v ≤ 28) :
    readPrefixLoop value shift (Leb128.encode v ++ rest) = .ok (value + v * 2 ^ shift, rest) := by
  induction v using Leb128.groups generalizing value shift with
  | last v last =>
    have byte := Leb128.toNat_ofNat_of_lt (v := v) (by omega)
    rw [Leb128.size_of_lt last] at fits
    rw [Leb128.encode_of_lt last, singleton_append, readPrefixLoop]
    simp only [byte, Nat.mod_eq_of_lt last, or_shift small, if_pos last]
    rw [if_neg (by omega)]
  | more v big ih =>
    have pos := Leb128.size_pos (v / 128)
    rw [Leb128.size_of_le big] at fits
    have step := ih (or_shift_lt (x := v % 128) small (by omega)) (by omega)
    rw [Leb128.encode_of_le big, cons_append, readPrefixLoop]
    simp only [toNat_more, low_more]
    rw [if_neg (by omega), if_neg (by omega), step, or_shift small, group_sum]

theorem readPrefixLoop_long (long : 35 ≤ shift + 7 * Leb128.size v) (started : shift < 35) :
    readPrefixLoop value shift (Leb128.encode v ++ rest) = .error .corrupt := by
  induction v using Leb128.groups generalizing value shift with
  | last v last =>
    rw [Leb128.size_of_lt last] at long
    rw [Leb128.encode_of_lt last, singleton_append, readPrefixLoop, if_pos (by omega)]
  | more v big ih =>
    rw [Leb128.size_of_le big] at long
    rw [Leb128.encode_of_le big, cons_append, readPrefixLoop]
    simp only [toNat_more, low_more]
    by_cases fifth : shift + 7 ≥ 35
    · rw [if_pos fifth]
    · rw [if_neg fifth, if_neg (by omega), ih (by omega) (by omega)]

theorem readPrefix_encode (short : v < 2 ^ 28) (rest : List UInt8) :
    readPrefix (Leb128.encode v ++ rest) = .ok (v, rest) := by
  by_cases last : v < 128
  · have byte := Leb128.toNat_ofNat_of_lt (v := v) (by omega)
    rw [Leb128.encode_of_lt last, singleton_append, readPrefix, byte, if_pos last, Nat.mod_eq_of_lt last]
  · have size : Leb128.size v ≤ 3 + 1 := Leb128.size_le_iff.mpr (by omega)
    rw [Leb128.size_of_le (by omega)] at size
    have group : v % 128 < 2 ^ 7 := by omega
    have whole : v % 128 + v / 128 * 2 ^ 7 = v := by omega
    rw [Leb128.encode_of_le (by omega), cons_append, readPrefix, toNat_more, if_neg (by omega), low_more,
      readPrefixLoop_encode group (by omega), whole]

theorem readPrefix_long (long : 2 ^ 28 ≤ v) : readPrefix (Leb128.encode v ++ rest) = .error .corrupt := by
  have size : ¬ Leb128.size v ≤ 3 + 1 := by
    rw [Leb128.size_le_iff]
    omega
  rw [Leb128.size_of_le (by omega)] at size
  rw [Leb128.encode_of_le (by omega), cons_append, readPrefix, toNat_more, if_neg (by omega),
    readPrefixLoop_long (by omega) (by omega)]

theorem readParams_encode {params : List Nat} (rounds : Nat) (words : ∀ v ∈ params, v < 2 ^ 32)
    (enough : params.length ≤ rounds) : readParams rounds (params.flatMap Leb128.encode) = .ok params := by
  induction params generalizing rounds with
  | nil => cases rounds <;> rfl
  | cons v params ih =>
    cases rounds with
    | zero => simp at enough
    | succ rounds =>
      have read := readLeb128_encode (words v List.mem_cons_self) (params.flatMap Leb128.encode)
      have others := ih rounds (fun w mem => words w (List.mem_cons_of_mem _ mem)) (by simpa using enough)
      obtain ⟨b, bs, bytes⟩ := List.exists_cons_of_ne_nil (Leb128.encode_ne_nil v)
      rw [List.flatMap_cons]
      rw [bytes, cons_append] at read ⊢
      rw [readParams, read]
      · simp only [bind, Except.bind, others]
        rfl
      · simp

theorem length_flatMap_encode (params : List Nat) : params.length ≤ (params.flatMap Leb128.encode).length := by
  induction params with
  | nil => simp
  | cons v params ih =>
    have pos := Leb128.size_pos v
    simp only [List.flatMap_cons, length_append, length_cons, Leb128.length_encode]
    omega

variable {r : RawRecord} {rs : List RawRecord} {bytes : List UInt8}

theorem readPayload_payload (readable : r.Readable) : readPayload r.payload = .ok r := by
  have id := readLeb128_encode readable.eventId (Leb128.encode r.deltaTs ++ r.params.flatMap Leb128.encode)
  have delta := readLeb128_encode readable.deltaTs (r.params.flatMap Leb128.encode)
  have params := readParams_encode _ readable.params (length_flatMap_encode r.params)
  rw [readPayload, RawRecord.payload, id]
  simp only [bind, Except.bind, delta, params]
  rfl

theorem readOneRecord_block (readable : r.Readable) (rest : List UInt8) :
    readOneRecord (Prefixed.block r.payload ++ rest) = .ok (r, rest) := by
  have head := readPrefix_encode readable.short (r.payload ++ rest)
  have body := readPayload_payload readable
  have enough : ¬ (r.payload ++ rest).length < r.payload.length := by
    rw [length_append]
    omega
  rw [readOneRecord, Prefixed.block, append_assoc, head]
  simp only [bind, Except.bind, if_neg enough, List.take_left, List.drop_left, body]
  rfl

theorem readOneRecord_long (long : 2 ^ 28 ≤ r.payload.length) (rest : List UInt8) :
    readOneRecord (Prefixed.block r.payload ++ rest) = .error .corrupt := by
  rw [readOneRecord, Prefixed.block, append_assoc, readPrefix_long long]
  rfl

theorem recordsLoop_wire (readable : ∀ r ∈ rs, r.Readable) (rounds : Nat) (rest : List UInt8) :
    recordsLoop (rs.length + rounds) (wire rs ++ rest) =
      (rs ++ (recordsLoop rounds rest).1, (recordsLoop rounds rest).2) := by
  induction rs with
  | nil => rw [wire_nil, List.nil_append, List.nil_append, List.length_nil, Nat.zero_add]
  | cons r rs ih =>
    have head := readOneRecord_block (readable r List.mem_cons_self) (wire rs ++ rest)
    have tail := ih fun r mem => readable r (List.mem_cons_of_mem _ mem)
    rw [length_cons, Nat.add_right_comm, recordsLoop, wire_cons, append_assoc, head]
    simp only [tail, cons_append]

/-! Every record takes a byte at least, so the reader's rounds always suffice. -/

theorem readPrefixLoop_shorter {bytes rest : List UInt8} (read : readPrefixLoop value shift bytes = .ok (v, rest)) :
    rest.length < bytes.length := by
  induction bytes generalizing value shift with
  | nil => cases read
  | cons b bytes ih =>
    rw [readPrefixLoop] at read
    split at read
    · cases read
    · split at read
      · cases read
        exact Nat.lt_succ_self _
      · exact Nat.lt_succ_of_lt (ih read)

theorem readPrefix_shorter {bytes rest : List UInt8} (read : readPrefix bytes = .ok (v, rest)) :
    rest.length < bytes.length := by
  cases bytes with
  | nil => cases read
  | cons b bytes =>
    rw [readPrefix] at read
    split at read
    · cases read
      exact Nat.lt_succ_self _
    · exact Nat.lt_succ_of_lt (readPrefixLoop_shorter read)

theorem readOneRecord_shorter {bytes rest : List UInt8} (read : readOneRecord bytes = .ok (r, rest)) :
    rest.length < bytes.length := by
  rw [readOneRecord] at read
  cases head : readPrefix bytes with
  | error error =>
    rw [head] at read
    cases read
  | ok found =>
    obtain ⟨recordLen, left⟩ := found
    have shorter := readPrefix_shorter head
    rw [head] at read
    simp only [bind, Except.bind] at read
    split at read
    · cases read
    · cases body : readPayload (left.take recordLen) with
      | error error =>
        rw [body] at read
        cases read
      | ok record =>
        rw [body] at read
        cases read
        rw [List.length_drop]
        omega

theorem recordsLoop_rounds {m n : Nat} (bytes : List UInt8) (hm : bytes.length < m) (hn : bytes.length < n) :
    recordsLoop m bytes = recordsLoop n bytes := by
  induction m generalizing n bytes with
  | zero => omega
  | succ m ih =>
    cases n with
    | zero => omega
    | succ n =>
      rw [recordsLoop, recordsLoop]
      cases read : readOneRecord bytes with
      | error error => rfl
      | ok found =>
        obtain ⟨record, rest⟩ := found
        have shorter := readOneRecord_shorter read
        have same := ih (n := n) rest (by omega) (by omega)
        simp only [same]

theorem length_le_wire (rs : List RawRecord) : rs.length ≤ (wire rs).length := by
  induction rs with
  | nil => simp
  | cons r rs ih =>
    have pos := Leb128.size_pos r.payload.length
    rw [wire_cons, length_append, Prefixed.length_block, length_cons]
    omega

theorem recordsFromStream_append (readable : ∀ r ∈ rs, r.Readable) (rest : List UInt8) :
    recordsFromStream (wire rs ++ rest) = (rs ++ (recordsFromStream rest).1, (recordsFromStream rest).2) := by
  have length := length_le_wire rs
  obtain ⟨spare, rounds⟩ : ∃ spare, (wire rs).length = rs.length + spare := Nat.exists_eq_add_of_le length
  have total : (wire rs ++ rest).length + 1 = rs.length + (spare + rest.length + 1) := by
    rw [length_append]
    omega
  have left : recordsLoop (spare + rest.length + 1) rest = recordsFromStream rest :=
    recordsLoop_rounds rest (by omega) (by omega)
  rw [recordsFromStream, total, recordsLoop_wire readable, left]

theorem recordsFromStream_wire (readable : ∀ r ∈ rs, r.Readable) : recordsFromStream (wire rs) = (rs, .cleanEof) := by
  have read := recordsFromStream_append readable []
  rw [List.append_nil] at read
  rw [read]
  simp only [recordsFromStream, recordsLoop, readOneRecord, readPrefix, bind, Except.bind, List.append_nil]

theorem wire_split {first rs : List RawRecord} (first_readable : ∀ r ∈ first, r.Readable)
    (readable : ∀ r ∈ rs, r.Readable) (same : wire first ++ bytes = wire rs) :
    rs = first ++ (recordsFromStream bytes).1 ∧ bytes = wire (recordsFromStream bytes).1 := by
  have split := recordsFromStream_append first_readable bytes
  rw [same, recordsFromStream_wire readable] at split
  have all : rs = first ++ (recordsFromStream bytes).1 := congrArg Prod.fst split
  refine ⟨all, ?_⟩
  rw [all, wire_append] at same
  exact List.append_cancel_left same

theorem recordsFromStream_stop {error : ReadError} (stops : readOneRecord bytes = .error error) :
    recordsFromStream bytes = ([], error) := by
  rw [recordsFromStream, recordsLoop, stops]

end XSDK.Trace
