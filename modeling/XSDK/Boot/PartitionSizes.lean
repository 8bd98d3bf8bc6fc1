import Mathlib.Data.Nat.Factorization.Basic
import XSDK.Boot.Partition

/-! The flash sizes and sector sizes for which the partition table's checks are enough, with
tables that pass them where they are not. -/
namespace XSDK.Boot

open Library

def tableOf (words : List UInt32) : List UInt8 :=
  let body := words.flatMap wordBytes
  body ++ wordBytes (crc32Calculate body crc32Init ^^^ 0xFFFFFFFF)

def singleWords (entry : PartitionEntry) : List UInt32 :=
  [partitionMagic, partitionVersion1, 1, 0, entry.type, entry.offset, entry.size, entry.flags] ++ List.replicate 28 0

def singleTable (entry : PartitionEntry) : List UInt8 := tableOf (singleWords entry)

/-- Sizes that leave no table room for a wrong entry: the sector size is a power of two and the
flash is below 2 GiB, or no sector fits the flash. -/
def SafeSizes (storageSize sectorSize : UInt32) : Prop :=
  ∃ k, 2 ^ k ∣ sectorSize.toNat ∧
    (storageSize.toNat < 2 ^ k ∨ sectorSize.toNat = 2 ^ k ∧ storageSize.toNat < 2 ^ 31)

variable {buffer : List UInt8} {storageSize sectorSize : UInt32} {table table' : PartitionTable} {i : Nat}
  {entry : PartitionEntry} {words : List UInt32} {word : UInt32}

theorem length_flatMap_wordBytes (words : List UInt32) : (words.flatMap wordBytes).length = 4 * words.length := by
  induction words with
  | nil => rfl
  | cons word words ih =>
    rw [List.flatMap_cons, List.length_append, length_wordBytes, ih, List.length_cons]
    omega

theorem wordAt_flatMap (here : words[i]? = some word) (post : List UInt8) :
    wordAt (words.flatMap wordBytes ++ post) (4 * i) = word := by
  obtain ⟨lt, rfl⟩ := List.getElem?_eq_some_iff.mp here
  have split : words.flatMap wordBytes ++ post =
      (words.take i).flatMap wordBytes ++ (wordBytes words[i] ++ ((words.drop (i + 1)).flatMap wordBytes ++ post)) := by
    conv => lhs; rw [← List.take_append_drop i words, List.drop_eq_getElem_cons lt]
    rw [List.flatMap_append, List.flatMap_cons, List.append_assoc, List.append_assoc]
  rw [split]
  apply wordAt_split
  rw [length_flatMap_wordBytes, List.length_take, Nat.min_eq_left (Nat.le_of_lt lt)]

theorem storedCrc_tableOf (words : List UInt32) :
    storedCrc (tableOf words) (4 * words.length) = wordAt (tableOf words) (4 * words.length) := by
  have body : (tableOf words).take (4 * words.length) = words.flatMap wordBytes := by
    rw [tableOf, ← length_flatMap_wordBytes, List.take_left]
  have stored := @wordAt_split (words.flatMap wordBytes) [] (4 * words.length)
    (crc32Calculate (words.flatMap wordBytes) crc32Init ^^^ 0xFFFFFFFF) (length_flatMap_wordBytes words)
  rw [List.append_nil] at stored
  rw [storedCrc, body, ← stored, tableOf]

theorem wordAt_singleTable (here : (singleWords entry)[i]? = some word) : wordAt (singleTable entry) (4 * i) = word :=
  wordAt_flatMap here _

theorem partitionEntryAt_singleTable (entry : PartitionEntry) : partitionEntryAt (singleTable entry) 0 = entry := by
  have type : wordAt (singleTable entry) 16 = entry.type := wordAt_singleTable (i := 4) rfl
  have offset : wordAt (singleTable entry) 20 = entry.offset := wordAt_singleTable (i := 5) rfl
  have size : wordAt (singleTable entry) 24 = entry.size := wordAt_singleTable (i := 6) rfl
  have flags : wordAt (singleTable entry) 28 = entry.flags := wordAt_singleTable (i := 7) rfl
  simp only [partitionEntryAt, Nat.zero_mul, Nat.add_zero, Nat.reduceAdd, type, offset, size, flags]

theorem partitionTableParse_singleTable (storage : storageSize ≠ 0) (sector : sectorSize ≠ 0)
    (valid : entry.Valid storageSize sectorSize) (table : PartitionTable) :
    wordAt (singleTable entry) 8 = 1 ∧
      ∃ table', partitionTableParse (singleTable entry) storageSize sectorSize table = (.ok (), table') := by
  have magic : wordAt (singleTable entry) 0 = partitionMagic := wordAt_singleTable (i := 0) rfl
  have version : wordAt (singleTable entry) 4 = partitionVersion1 := wordAt_singleTable (i := 1) rfl
  have count : wordAt (singleTable entry) 8 = 1 := wordAt_singleTable (i := 2) rfl
  have crc : storedCrc (singleTable entry) partitionCrcOffset = wordAt (singleTable entry) partitionCrcOffset :=
    storedCrc_tableOf _
  have long : ¬(singleTable entry).length < partitionTableSize := by
    rw [singleTable, tableOf, List.length_append, length_flatMap_wordBytes, length_wordBytes]
    exact Nat.lt_irrefl 148
  have header : validateHeader (singleTable entry) partitionMagic partitionVersion1 1 = .ok () := by
    rw [validateHeader, if_neg (not_not.mpr rfl), if_neg (not_not.mpr rfl), if_neg (by decide), if_neg (not_not.mpr crc)]
  have one : (1 : UInt32).toNat = 0 + 1 := rfl
  have checked := (validateEntry_ok_iff sector).mpr valid
  rw [partitionTableParse, if_neg long, if_neg (not_or.mpr ⟨storage, sector⟩)]
  simp only [magic, version, count, header, one, parseEntries, partitionEntryAt_singleTable, checked]
  exact ⟨trivial, _, rfl⟩

theorem fits_of_safeSizes (safe : SafeSizes storageSize sectorSize)
    (ok : partitionTableParse buffer storageSize sectorSize table = (.ok (), table')) : Fits buffer sectorSize := by
  obtain ⟨k, power, sizes⟩ := safe
  obtain ⟨_, positive, _, _, parsed⟩ := parsed_of_parse ok
  have sector_pos : 0 < sectorSize.toNat := Nat.pos_of_ne_zero fun zero => positive (UInt32.toNat_inj.mp zero)
  intro i lt
  have valid := (parsed.checked i (Nat.zero_le i) lt).valid' positive
  have offset_dvd := dvd_of_masked sector_pos power valid.offset_masked
  have size_dvd := dvd_of_masked sector_pos power valid.size_masked
  have offset_le := valid.offset_le
  have size_le := valid.size_le
  rcases sizes with tiny | ⟨exactly, small⟩
  · have sector_le := Nat.le_of_dvd valid.nonempty size_dvd
    omega
  · rw [exactly]
    exact ⟨by omega, offset_dvd, size_dvd⟩

theorem sizes_ne_zero (room : ¬SafeSizes storageSize sectorSize) : storageSize ≠ 0 ∧ sectorSize ≠ 0 := by
  constructor
  · rintro rfl
    exact room ⟨0, Nat.one_dvd _, .inl (by decide)⟩
  · rintro rfl
    exact room ⟨32, Nat.dvd_zero _, .inl storageSize.toNat_lt⟩

theorem exists_unfit (positive : sectorSize ≠ 0) (room : ¬SafeSizes storageSize sectorSize) :
    ∃ entry : PartitionEntry, entry.Valid storageSize sectorSize ∧
      ¬(entry.offset.toNat + entry.size.toNat < 2 ^ 32 ∧ sectorSize.toNat ∣ entry.size.toNat) := by
  have sector_ne : sectorSize.toNat ≠ 0 := fun zero => positive (UInt32.toNat_inj.mp zero)
  have sector_lt := sectorSize.toNat_lt
  obtain ⟨k, m, odd, shape⟩ := Nat.exists_eq_two_pow_mul_odd sector_ne
  have power : 2 ^ k ∣ sectorSize.toNat := ⟨m, shape⟩
  have power_le : 2 ^ k ≤ sectorSize.toNat := Nat.le_of_dvd (Nat.pos_of_ne_zero sector_ne) power
  have large : 2 ^ k ≤ storageSize.toNat := Nat.le_of_not_lt fun tiny => room ⟨k, power, .inl tiny⟩
  have type : (1 : UInt32) ≠ partitionTypeInvalid := by decide
  by_cases whole : sectorSize.toNat = 2 ^ k
  · -- a power of two: two halves of the address space wrap to nothing
    have huge : 2 ^ 31 ≤ storageSize.toNat := Nat.le_of_not_lt fun small => room ⟨k, power, .inr ⟨whole, small⟩⟩
    have half : (2 : Nat) ^ 31 &&& (sectorSize.toNat - 1) = 0 := by
      have exponent : k ≤ 31 := by
        by_contra above
        have wide : 2 ^ 32 ≤ 2 ^ k := Nat.pow_le_pow_right (by decide) (by omega)
        omega
      have multiple := masked_multiple k (2 ^ (31 - k))
      rw [← Nat.pow_add, Nat.add_sub_cancel' exponent] at multiple
      rw [whole]
      exact multiple
    refine ⟨⟨1, 0x80000000, 0x80000000, 0⟩, ⟨type, half, half, by decide, huge, huge, ?_⟩, fun fit => ?_⟩
    · exact Nat.zero_le _
    · exact absurd fit.1 (by decide)
  · -- the power of two in the sector size passes, and is no multiple of it
    have size : (UInt32.ofNat (2 ^ k)).toNat = 2 ^ k := by
      rw [UInt32.toNat_ofNat']
      exact Nat.mod_eq_of_lt (by omega)
    have masked := masked_power k odd
    rw [← shape] at masked
    refine ⟨⟨1, 0, UInt32.ofNat (2 ^ k), 0⟩, ⟨type, Nat.zero_and _, ?_, ?_, Nat.zero_le _, ?_, ?_⟩, fun fit => ?_⟩
    · rw [size]
      exact masked
    · rw [size]
      exact Nat.two_pow_pos k
    · rw [size]
      exact large
    · change (0 + (UInt32.ofNat (2 ^ k)).toNat) % 2 ^ 32 ≤ _
      rw [size, Nat.zero_add, Nat.mod_eq_of_lt (by omega)]
      exact large
    · have dvd := fit.2
      rw [size] at dvd
      exact whole (Nat.le_antisymm (Nat.le_of_dvd (Nat.two_pow_pos k) dvd) power_le)

/-- What a table that passed the checks is right about, and for which sizes all such tables are. -/
theorem partition_table_sound_iff (storageSize sectorSize : UInt32) :
    (∀ buffer table table', partitionTableParse buffer storageSize sectorSize table = (.ok (), table') →
      (table'.Sound storageSize sectorSize ↔ Fits buffer sectorSize)) ∧
    ((∀ buffer table table', partitionTableParse buffer storageSize sectorSize table = (.ok (), table') →
      table'.Sound storageSize sectorSize) ↔ SafeSizes storageSize sectorSize) := by
  refine ⟨fun buffer table table' ok => sound_iff_fits ok, fun sound => ?_, fun safe buffer table table' ok => ?_⟩
  · by_contra room
    obtain ⟨storage, sector⟩ := sizes_ne_zero room
    obtain ⟨entry, valid, unfit⟩ := exists_unfit sector room
    obtain ⟨one, table', ok⟩ := partitionTableParse_singleTable storage sector valid
      ⟨0, 0, 0, 0, fun _ => ⟨0, 0, 0, 0⟩, 0⟩
    have first : 0 < (wordAt (singleTable entry) 8).toNat := by
      rw [one]
      decide
    have fits := (sound_iff_fits ok).mp (sound _ _ _ ok) 0 first
    rw [partitionEntryAt_singleTable] at fits
    exact unfit ⟨fits.1, fits.2.2⟩
  · exact (sound_iff_fits ok).mpr (fits_of_safeSizes safe ok)

/-- A flash of nearly 4 GiB takes an entry whose end wraps to zero. -/
theorem partition_table_wraps :
    ¬∀ buffer storageSize sectorSize table table', sectorSize ≠ 0 →
      partitionTableParse buffer storageSize sectorSize table = (.ok (), table') →
      table'.Sound storageSize sectorSize := by
  intro sound
  have valid : PartitionEntry.Valid ⟨2, 0x80000000, 0x80000000, 0⟩ 0xFFFF0000 0x10000 :=
    ⟨by decide, by decide, by decide, by decide, by decide, by decide, by decide⟩
  obtain ⟨one, table', ok⟩ := partitionTableParse_singleTable (by decide) (by decide) valid
    ⟨0, 0, 0, 0, fun _ => ⟨0, 0, 0, 0⟩, 0⟩
  have first : 0 < (wordAt (singleTable ⟨2, 0x80000000, 0x80000000, 0⟩) 8).toNat := by
    rw [one]
    decide
  have fits := (sound_iff_fits ok).mp (sound _ _ _ _ _ (by decide) ok) 0 first
  rw [partitionEntryAt_singleTable] at fits
  exact absurd fits.1 (by decide)

end XSDK.Boot
