import XSDK.Boot.Image
import XSDK.Library.Align

/-! The partition table: its parser, and what a table that passes says about the flash. -/
namespace XSDK.Boot

open Library

structure PartitionEntry where
  type : UInt32
  offset : UInt32
  size : UInt32
  flags : UInt32
  deriving DecidableEq, Repr

structure PartitionTable where
  magic : UInt32
  version : UInt32
  numEntries : UInt32
  reserved : UInt32
  entries : Nat → PartitionEntry
  crc32 : UInt32

def partitionMagic : UInt32 := 0x58425054
def partitionVersion1 : UInt32 := 1
def partitionTypeInvalid : UInt32 := 0
def maxPartitions : UInt32 := 8
def partitionTableSize : Nat := 148
def partitionCrcOffset : Nat := 144
def partitionEntrySize : Nat := 16

def isAligned (val align : UInt32) : Bool := decide (val &&& (align - 1) = 0)

def partitionEntryAt (buffer : List UInt8) (i : Nat) : PartitionEntry :=
  let entryOffset := 16 + i * partitionEntrySize
  ⟨wordAt buffer entryOffset, wordAt buffer (entryOffset + 4), wordAt buffer (entryOffset + 8),
    wordAt buffer (entryOffset + 12)⟩

def validateHeader (buffer : List UInt8) (magic version numEntries : UInt32) : Except Error Unit :=
  if magic ≠ partitionMagic then .error .invalidPartition
  else if version ≠ partitionVersion1 then .error .invalidPartition
  else if maxPartitions < numEntries then .error .invalidPartition
  else if storedCrc buffer partitionCrcOffset ≠ wordAt buffer partitionCrcOffset then .error .crcMismatch
  else .ok ()

def validateEntry (entry : PartitionEntry) (storageSize sectorSize : UInt32) : Except Error Unit :=
  if entry.type = partitionTypeInvalid then .error .invalidPartition
  else if isAligned entry.offset sectorSize = false ∨
    isAligned entry.size sectorSize = false then .error .invalidPartition
  else if entry.size = 0 then .error .invalidPartition
  else if storageSize < entry.offset ∨ storageSize < entry.size ∨ storageSize < entry.offset + entry.size then
    .error .invalidPartition
  else .ok ()

/-- The overlap test of two entries; the ends are words and may wrap. -/
def clash (entry other : PartitionEntry) : Bool :=
  decide (entry.offset < other.offset + other.size ∧ other.offset < entry.offset + entry.size)

def checkOverlap (entry : PartitionEntry) (table : PartitionTable) (currentIdx : Nat) : Bool :=
  (List.range currentIdx).any fun j => clash entry (table.entries j)

/-- The loop over the entries, with how many are left and the index of the next one. -/
def parseEntries (buffer : List UInt8) (storageSize sectorSize : UInt32) :
    Nat → Nat → PartitionTable → Except Error Unit × PartitionTable
  | 0, _, table => (.ok (), table)
  | left + 1, i, table =>
    let entry := partitionEntryAt buffer i
    let table := { table with entries := fun j => if j = i then entry else table.entries j }
    match validateEntry entry storageSize sectorSize with
    | .error status => (.error status, table)
    | .ok _ =>
      if checkOverlap entry table i then (.error .invalidPartition, table)
      else parseEntries buffer storageSize sectorSize left (i + 1) table

/-- The status, and the caller's table as it is left. The pointers are set; the buffer is what
its size names. -/
def partitionTableParse (buffer : List UInt8) (storageSize sectorSize : UInt32) (table : PartitionTable) :
    Except Error Unit × PartitionTable :=
  if buffer.length < partitionTableSize then (.error .invalidArgument, table)
  else if storageSize = 0 ∨ sectorSize = 0 then (.error .invalidArgument, table)
  else
    let magic := wordAt buffer 0
    let version := wordAt buffer 4
    let numEntries := wordAt buffer 8
    match validateHeader buffer magic version numEntries with
    | .error status => (.error status, table)
    | .ok _ =>
      let table :=
        { table with
          magic := magic, version := version, numEntries := numEntries, reserved := 0,
          crc32 := wordAt buffer partitionCrcOffset }
      parseEntries buffer storageSize sectorSize numEntries.toNat 0 table

/- What a table promises. -/

def PartitionEntry.Covers (entry : PartitionEntry) (address : Nat) : Prop :=
  entry.offset.toNat ≤ address ∧ address < entry.offset.toNat + entry.size.toNat

/-- Every entry is a whole number of sectors inside the flash, and no two share a byte. -/
structure PartitionTable.Sound (storageSize sectorSize : UInt32) (table : PartitionTable) : Prop where
  nonempty : ∀ i < table.numEntries.toNat, 0 < (table.entries i).size.toNat
  inside : ∀ i < table.numEntries.toNat,
    (table.entries i).offset.toNat + (table.entries i).size.toNat ≤ storageSize.toNat
  aligned : ∀ i < table.numEntries.toNat,
    sectorSize.toNat ∣ (table.entries i).offset.toNat ∧ sectorSize.toNat ∣ (table.entries i).size.toNat
  apart : ∀ i < table.numEntries.toNat, ∀ j < table.numEntries.toNat, i ≠ j →
    ∀ address, ¬((table.entries i).Covers address ∧ (table.entries j).Covers address)

variable {buffer : List UInt8} {storageSize sectorSize : UInt32} {table table' : PartitionTable} {left i : Nat}
  {entry other : PartitionEntry}

structure Checked (buffer : List UInt8) (storageSize sectorSize : UInt32) (i : Nat) : Prop where
  valid : validateEntry (partitionEntryAt buffer i) storageSize sectorSize = .ok ()
  apart : ∀ j < i, clash (partitionEntryAt buffer i) (partitionEntryAt buffer j) = false

structure Parsed (buffer : List UInt8) (storageSize sectorSize : UInt32) (i stop : Nat)
    (table table' : PartitionTable) :
    Prop where
  entries : ∀ j < stop, table'.entries j = partitionEntryAt buffer j
  numEntries : table'.numEntries = table.numEntries
  checked : ∀ j, i ≤ j → j < stop → Checked buffer storageSize sectorSize j

theorem parsed_of_parseEntries (before : ∀ j < i, table.entries j = partitionEntryAt buffer j)
    (ok : parseEntries buffer storageSize sectorSize left i table = (.ok (), table')) :
    Parsed buffer storageSize sectorSize i (i + left) table table' := by
  induction left generalizing i table with
  | zero =>
    obtain rfl : table = table' := congrArg Prod.snd ok
    exact ⟨before, rfl, fun j low high => absurd high (by omega)⟩
  | succ left ih =>
    rw [parseEntries] at ok
    generalize stored : ({ table with
      entries := fun j => if j = i then partitionEntryAt buffer i else table.entries j } : PartitionTable) = next at ok
    have filled : ∀ j < i + 1, next.entries j = partitionEntryAt buffer j := by
      intro j lt
      subst stored
      by_cases here : j = i
      · rw [here]
        exact if_pos rfl
      · exact (if_neg here).trans (before j (by omega))
    cases valid : validateEntry (partitionEntryAt buffer i) storageSize sectorSize with
    | error status =>
      simp only [valid] at ok
      cases ok
    | ok _ =>
      simp only [valid] at ok
      by_cases overlap : checkOverlap (partitionEntryAt buffer i) next i = true
      · rw [if_pos overlap] at ok
        cases ok
      · rw [if_neg overlap] at ok
        have rest := ih filled ok
        have here : Checked buffer storageSize sectorSize i := by
          refine ⟨valid, fun j lt => ?_⟩
          have clear := (List.any_eq_false.mp (Bool.eq_false_iff.mpr overlap)) j (List.mem_range.mpr lt)
          rw [filled j (by omega)] at clear
          exact Bool.eq_false_iff.mpr clear
        have count : next.numEntries = table.numEntries := by rw [← stored]
        rw [Nat.add_right_comm, Nat.add_assoc] at rest
        refine ⟨rest.entries, rest.numEntries.trans count, fun j low high => ?_⟩
        rcases Nat.eq_or_lt_of_le low with rfl | later
        · exact here
        · exact rest.checked j later high

theorem parsed_of_parse (ok : partitionTableParse buffer storageSize sectorSize table = (.ok (), table')) :
    table'.numEntries = wordAt buffer 8 ∧ sectorSize ≠ 0 ∧ partitionTableSize ≤ buffer.length ∧
      storedCrc buffer partitionCrcOffset = wordAt buffer partitionCrcOffset ∧
      Parsed buffer storageSize sectorSize 0 (wordAt buffer 8).toNat table' table' := by
  rw [partitionTableParse] at ok
  by_cases short : buffer.length < partitionTableSize
  · rw [if_pos short] at ok
    cases ok
  by_cases zero : storageSize = 0 ∨ sectorSize = 0
  · rw [if_neg short, if_pos zero] at ok
    cases ok
  rw [if_neg short, if_neg zero] at ok
  cases valid : validateHeader buffer (wordAt buffer 0) (wordAt buffer 4) (wordAt buffer 8) with
  | error status =>
    simp only [valid] at ok
    cases ok
  | ok _ =>
    simp only [valid] at ok
    have done := parsed_of_parseEntries (fun j lt => absurd lt (Nat.not_lt_zero j)) ok
    rw [Nat.zero_add] at done
    rw [validateHeader] at valid
    obtain ⟨_, valid⟩ := passed_of_ok valid
    obtain ⟨_, valid⟩ := passed_of_ok valid
    obtain ⟨_, valid⟩ := passed_of_ok valid
    obtain ⟨crc, _⟩ := passed_of_ok valid
    exact ⟨done.numEntries, fun none => zero (.inr none), Nat.le_of_not_lt short, not_not.mp crc,
      ⟨done.entries, rfl, done.checked⟩⟩

/- One entry over unbounded integers. -/

theorem isAligned_iff (val : UInt32) {align : UInt32} (positive : align ≠ 0) :
    isAligned val align = true ↔ val.toNat &&& (align.toNat - 1) = 0 := by
  have low : 0 < align.toNat := Nat.pos_of_ne_zero fun zero => positive (UInt32.toNat_inj.mp zero)
  have le : (1 : UInt32) ≤ align := UInt32.le_iff_toNat_le.mpr low
  have less : (align - 1).toNat = align.toNat - 1 := UInt32.toNat_sub_of_le _ _ le
  rw [isAligned, decide_eq_true_iff, ← UInt32.toNat_inj, UInt32.toNat_and, less]
  rfl

structure PartitionEntry.Valid (entry : PartitionEntry) (storageSize sectorSize : UInt32) : Prop where
  type : entry.type ≠ partitionTypeInvalid
  offset_masked : entry.offset.toNat &&& (sectorSize.toNat - 1) = 0
  size_masked : entry.size.toNat &&& (sectorSize.toNat - 1) = 0
  nonempty : 0 < entry.size.toNat
  offset_le : entry.offset.toNat ≤ storageSize.toNat
  size_le : entry.size.toNat ≤ storageSize.toNat
  end_le : (entry.offset.toNat + entry.size.toNat) % 2 ^ 32 ≤ storageSize.toNat

theorem validateEntry_ok_iff (positive : sectorSize ≠ 0) :
    validateEntry entry storageSize sectorSize = .ok () ↔ entry.Valid storageSize sectorSize := by
  have pass : ∀ val, isAligned val sectorSize = false ↔ ¬val.toNat &&& (sectorSize.toNat - 1) = 0 := by
    intro val
    rw [← isAligned_iff val positive, Bool.not_eq_true]
  have empty : entry.size = 0 ↔ entry.size.toNat = 0 := UInt32.toNat_inj.symm
  rw [validateEntry]
  simp only [pass, empty, UInt32.lt_iff_toNat_lt, UInt32.toNat_add]
  constructor
  · intro ok
    obtain ⟨type, ok⟩ := passed_of_ok ok
    obtain ⟨aligned, ok⟩ := passed_of_ok ok
    obtain ⟨nonempty, ok⟩ := passed_of_ok ok
    obtain ⟨bounds, _⟩ := passed_of_ok ok
    simp only [not_or, not_not, Nat.not_lt] at aligned bounds
    exact ⟨type, aligned.1, aligned.2, Nat.pos_of_ne_zero nonempty, bounds.1, bounds.2.1, bounds.2.2⟩
  · intro valid
    have nonempty := valid.nonempty
    have offset_le := valid.offset_le
    have size_le := valid.size_le
    have end_le := valid.end_le
    rw [if_neg valid.type, if_neg, if_neg (by omega), if_neg (by omega)]
    simp only [valid.offset_masked, valid.size_masked, not_true_eq_false, or_self, not_false_eq_true]

theorem Checked.valid' (checked : Checked buffer storageSize sectorSize i) (positive : sectorSize ≠ 0) :
    (partitionEntryAt buffer i).Valid storageSize sectorSize :=
  (validateEntry_ok_iff positive).mp checked.valid

theorem not_covers_of_clash (clear : clash entry other = false)
    (low : entry.offset.toNat + entry.size.toNat < 2 ^ 32) (low' : other.offset.toNat + other.size.toNat < 2 ^ 32)
    (address : Nat) : ¬(entry.Covers address ∧ other.Covers address) := by
  rintro ⟨⟨first, last⟩, first', last'⟩
  rw [clash, decide_eq_false_iff_not] at clear
  apply clear
  rw [UInt32.lt_iff_toNat_lt, UInt32.lt_iff_toNat_lt, UInt32.toNat_add, UInt32.toNat_add, Nat.mod_eq_of_lt low,
    Nat.mod_eq_of_lt low']
  omega

/- The whole table. -/

/-- No entry's end wraps, and every field that passes the mask is a multiple of the sector size. -/
def Fits (buffer : List UInt8) (sectorSize : UInt32) : Prop :=
  ∀ i < (wordAt buffer 8).toNat,
    (partitionEntryAt buffer i).offset.toNat + (partitionEntryAt buffer i).size.toNat < 2 ^ 32 ∧
    sectorSize.toNat ∣ (partitionEntryAt buffer i).offset.toNat ∧
    sectorSize.toNat ∣ (partitionEntryAt buffer i).size.toNat

theorem sound_iff_fits (ok : partitionTableParse buffer storageSize sectorSize table = (.ok (), table')) :
    table'.Sound storageSize sectorSize ↔ Fits buffer sectorSize := by
  obtain ⟨count, positive, _, _, parsed⟩ := parsed_of_parse ok
  have valid : ∀ i < (wordAt buffer 8).toNat, (partitionEntryAt buffer i).Valid storageSize sectorSize :=
    fun i lt => (parsed.checked i (Nat.zero_le i) lt).valid' positive
  constructor
  · intro sound i lt
    have inside := sound.inside i (count ▸ lt)
    have aligned := sound.aligned i (count ▸ lt)
    have small := storageSize.toNat_lt
    rw [parsed.entries i lt] at inside aligned
    exact ⟨by omega, aligned⟩
  · intro fits
    constructor <;> rw [count]
    · intro i lt
      rw [parsed.entries i lt]
      exact (valid i lt).nonempty
    · intro i lt
      have end_le := (valid i lt).end_le
      rw [Nat.mod_eq_of_lt (fits i lt).1] at end_le
      rw [parsed.entries i lt]
      exact end_le
    · intro i lt
      rw [parsed.entries i lt]
      exact (fits i lt).2
    · intro i lt j lt' differ address
      rw [parsed.entries i lt, parsed.entries j lt']
      rcases Nat.lt_or_gt_of_ne differ with before | after
      · have clear := (parsed.checked j (Nat.zero_le j) lt').apart i before
        exact fun both => not_covers_of_clash clear (fits j lt').1 (fits i lt).1 address ⟨both.2, both.1⟩
      · have clear := (parsed.checked i (Nat.zero_le i) lt).apart j after
        exact not_covers_of_clash clear (fits i lt).1 (fits j lt').1 address

end XSDK.Boot

/-! Damaged headers and tables: what the checksum catches for certain. -/
namespace XSDK.Boot

open Library

variable {first second : List UInt8} {offset : Nat}

/-- The stored checksum is kept, and the bytes under it differ in a window of 32 bits. -/
structure Damaged (first second : List UInt8) (offset : Nat) : Prop where
  stored : wordAt second offset = wordAt first offset
  burst : Crc.Burst 32 (dataBits (first.take offset)) (dataBits (second.take offset))

theorem Damaged.mismatch (damaged : Damaged first second offset)
    (right : storedCrc first offset = wordAt first offset) :
    storedCrc second offset ≠ wordAt second offset := by
  intro right'
  rw [damaged.stored, ← right, storedCrc, storedCrc] at right'
  exact crc32Calculate_ne damaged.burst crc32Init (UInt32.xor_left_inj _ |>.mp right').symm

/-- No burst of up to 32 bits gets past the parsers. -/
theorem bursts_rejected :
    (∀ first second header, imageHeaderParse first = .ok header → Damaged first second imageCrcOffset →
      ∃ error, imageHeaderParse second = .error error) ∧
    ∀ first second storageSize sectorSize storageSize' sectorSize' table table',
      (partitionTableParse first storageSize sectorSize table).1 = .ok () → Damaged first second partitionCrcOffset →
      ∃ error, (partitionTableParse second storageSize' sectorSize' table').1 = .error error := by
  constructor
  · intro first second header accepted damaged
    have wrong := damaged.mismatch (crc_of_imageHeaderParse accepted).2
    cases parsed : imageHeaderParse second with
    | error error => exact ⟨error, rfl⟩
    | ok header' => exact absurd (crc_of_imageHeaderParse parsed).2 wrong
  · intro first second storageSize sectorSize storageSize' sectorSize' table table' accepted damaged
    have right := (parsed_of_parse (Prod.ext accepted rfl)).2.2.2.1
    have wrong := damaged.mismatch right
    cases parsed : (partitionTableParse second storageSize' sectorSize' table').1 with
    | error error => exact ⟨error, rfl⟩
    | ok done => exact absurd (parsed_of_parse (Prod.ext parsed rfl)).2.2.2.1 wrong

end XSDK.Boot
