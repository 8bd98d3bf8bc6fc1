import XSDK.Fs.Mount

/-! What the check of a boot sector leaves open: the sizes of its tables and of its heap. -/
namespace XSDK.Fs

open Library

def fat32BadCluster : Nat := 0x0FFFFFF7

namespace Bpb

variable (bpb : Bpb)

/-- The heap's first sector and the clusters behind it, over unbounded integers. -/
def heap : Nat := bpb.reservedSectorCount + bpb.numberOfFats * bpb.fatSize

def clusters : Nat := (bpb.totalSectors - bpb.heap) / bpb.sectorsPerCluster

structure Sound : Prop where
  tables_fit : bpb.heap ≤ bpb.totalSectors
  entry_inside : ∀ c, 2 ≤ c → c < 2 + bpb.clusters → 4 * c / 512 < bpb.fatSize
  data_inside : ∀ c, 2 ≤ c → c < 2 + bpb.clusters → ∀ k < bpb.sectorsPerCluster,
    bpb.heap ≤ bpb.heap + (c - 2) * bpb.sectorsPerCluster + k ∧
      bpb.heap + (c - 2) * bpb.sectorsPerCluster + k < bpb.totalSectors
  below_bad : 2 + bpb.clusters < fat32BadCluster

/-- No word that parsing, the links or the sectors of the clusters are computed with wraps. -/
structure NoWrap : Prop where
  tables : bpb.numberOfFats * bpb.fatSize < 2 ^ 32
  heap_start : bpb.reservedSectorCount + bpb.numberOfFats * bpb.fatSize < 2 ^ 32
  heap_size : bpb.clusterHeapStart ≤ bpb.totalSectors
  bound : fat32ClusterMin + bpb.totalClusters < 2 ^ 32
  entry : ∀ c, 2 ≤ c → c < 2 + bpb.totalClusters →
    c * fat32EntrySize < 2 ^ 32 ∧ bpb.fatStartSector + c * fat32EntrySize / bpb.bytesPerSector < 2 ^ 32
  sector : ∀ c, 2 ≤ c → c < 2 + bpb.totalClusters →
    (c - 2) * bpb.sectorsPerCluster < 2 ^ 32 ∧ bpb.clusterHeapStart + (c - 2) * bpb.sectorsPerCluster < 2 ^ 32

/-- The tables end below 2^32, and the heap has fewer clusters than a table has room for and
than there are numbers for. -/
def Bounded : Prop :=
  bpb.heap < 2 ^ 32 ∧
    bpb.totalSectors - bpb.heap < bpb.sectorsPerCluster * min (128 * bpb.fatSize - 1) (fat32BadCluster - 2)

end Bpb

section Exact

variable {bpb : Bpb} (noWrap : bpb.NoWrap) {c : Nat}

include noWrap

end Exact

structure Accepted (bpb : Bpb) : Prop where
  bytesPerSector : bpb.bytesPerSector = 512
  sectorsPerCluster : 0 < bpb.sectorsPerCluster
  fatSize : 0 < bpb.fatSize
  heap : bpb.clusterHeapStart < bpb.totalSectors
  clusters : 0 < bpb.totalClusters

section Parse

variable {sector : Sector}

theorem accepted_parse (valid : bpbIsValid (bpbParse sector) sector = true) : Accepted (bpbParse sector) := by
  rw [bpbIsValid, decide_eq_true_iff] at valid
  obtain ⟨-, bytes, perCluster, -, size, heap, clusters, -⟩ := valid
  exact ⟨bytes, Nat.pos_of_ne_zero perCluster, Nat.pos_of_ne_zero size, heap, Nat.pos_of_ne_zero clusters⟩

theorem parse_total_lt (sector : Sector) : (bpbParse sector).totalSectors < 2 ^ 32 := readLE32_lt sector _

theorem parse_heap (fits : (bpbParse sector).heap < 2 ^ 32) :
    (bpbParse sector).clusterHeapStart = (bpbParse sector).heap := by
  have product : word32 ((bpbParse sector).numberOfFats * (bpbParse sector).fatSize) =
      (bpbParse sector).numberOfFats * (bpbParse sector).fatSize :=
    word32_of_lt (Nat.lt_of_le_of_lt (Nat.le_add_left _ _) fits)
  change word32 ((bpbParse sector).reservedSectorCount +
    word32 ((bpbParse sector).numberOfFats * (bpbParse sector).fatSize)) = _
  rw [product]
  exact word32_of_lt fits

theorem parse_clusters (accepted : Accepted (bpbParse sector)) (fits : (bpbParse sector).heap < 2 ^ 32) :
    (bpbParse sector).totalClusters = (bpbParse sector).clusters := by
  have heap := accepted.heap
  have total := parse_total_lt sector
  have known : (bpbParse sector).totalClusters =
      word32 ((bpbParse sector).totalSectors + 2 ^ 32 - (bpbParse sector).clusterHeapStart) /
        (bpbParse sector).sectorsPerCluster := if_pos (Nat.ne_of_gt accepted.sectorsPerCluster)
  have shift : (bpbParse sector).totalSectors + 2 ^ 32 - (bpbParse sector).clusterHeapStart =
      ((bpbParse sector).totalSectors - (bpbParse sector).clusterHeapStart) + 2 ^ 32 := by omega
  rw [known, shift, word32, Nat.add_mod_right, Nat.mod_eq_of_lt (by omega), parse_heap fits]
  rfl

theorem bounded_iff (accepted : Accepted (bpbParse sector)) :
    (bpbParse sector).Bounded ↔ (bpbParse sector).heap < 2 ^ 32 ∧
      (bpbParse sector).clusters + 1 < 128 * (bpbParse sector).fatSize ∧
      2 + (bpbParse sector).clusters < fat32BadCluster := by
  have count : (bpbParse sector).totalSectors - (bpbParse sector).heap <
      (bpbParse sector).sectorsPerCluster * min (128 * (bpbParse sector).fatSize - 1) (fat32BadCluster - 2) ↔
      (bpbParse sector).clusters < min (128 * (bpbParse sector).fatSize - 1) (fat32BadCluster - 2) := by
    rw [Bpb.clusters, Nat.div_lt_iff_lt_mul accepted.sectorsPerCluster, Nat.mul_comm]
  rw [Bpb.Bounded, count, Nat.lt_min, fat32BadCluster]
  omega

theorem cluster_end {bpb : Bpb} {c k : Nat} (low : 2 ≤ c) (high : c < 2 + bpb.clusters)
    (inside : k < bpb.sectorsPerCluster) : (c - 2) * bpb.sectorsPerCluster + k < bpb.totalSectors - bpb.heap := by
  have below : c - 2 + 1 ≤ bpb.clusters := by omega
  have scaled : (c - 2 + 1) * bpb.sectorsPerCluster ≤ bpb.clusters * bpb.sectorsPerCluster :=
    Nat.mul_le_mul_right _ below
  have rounded : bpb.clusters * bpb.sectorsPerCluster ≤ bpb.totalSectors - bpb.heap := Nat.div_mul_le_self _ _
  rw [Nat.add_mul, Nat.one_mul] at scaled
  omega

theorem sound_of_bounded (accepted : Accepted (bpbParse sector)) (bounded : (bpbParse sector).Bounded) :
    (bpbParse sector).Sound ∧ (bpbParse sector).NoWrap := by
  obtain ⟨fits, table, numbers⟩ := (bounded_iff accepted).mp bounded
  have start := parse_heap fits
  have count := parse_clusters accepted fits
  have below := accepted.heap
  have total := parse_total_lt sector
  have first : (bpbParse sector).fatStartSector ≤ (bpbParse sector).heap := Nat.le_add_right _ _
  have ends : ∀ c k, 2 ≤ c → c < 2 + (bpbParse sector).clusters → k < (bpbParse sector).sectorsPerCluster →
      (bpbParse sector).heap + (c - 2) * (bpbParse sector).sectorsPerCluster + k < (bpbParse sector).totalSectors := by
    intro c k low high inside
    have last := cluster_end low high inside
    omega
  rw [start] at below
  rw [fat32BadCluster] at numbers
  constructor
  · refine ⟨Nat.le_of_lt below, fun c _ high => ?_, fun c low high k inside => ?_, numbers⟩
    · omega
    · exact ⟨by omega, ends c k low high inside⟩
  · refine ⟨?_, fits, by omega, ?_, fun c _ high => ?_, fun c low high => ?_⟩
    · exact Nat.lt_of_le_of_lt (Nat.le_add_left _ _) fits
    · rw [count, fat32ClusterMin]
      omega
    · have reserved : (bpbParse sector).fatStartSector < 2 ^ 16 := readLE16_lt sector _
      rw [count] at high
      rw [fat32EntrySize, accepted.bytesPerSector]
      omega
    · rw [count] at high
      have last := ends c 0 low high accepted.sectorsPerCluster
      rw [start]
      omega

/-- The boot sectors that are accepted and describe a volume that fits are the bounded ones. -/
theorem boot_sector_sound_iff (sector : Sector) (valid : bpbIsValid (bpbParse sector) sector = true) :
    ((bpbParse sector).Sound ∧ (bpbParse sector).NoWrap) ↔ (bpbParse sector).Bounded := by
  have accepted := accepted_parse valid
  constructor
  · rintro ⟨sound, -⟩
    have total := parse_total_lt sector
    have fits : (bpbParse sector).heap < 2 ^ 32 := Nat.lt_of_le_of_lt sound.tables_fit total
    have some : 0 < (bpbParse sector).clusters := by
      rw [← parse_clusters accepted fits]
      exact accepted.clusters
    have last := sound.entry_inside (1 + (bpbParse sector).clusters) (by omega) (by omega)
    exact (bounded_iff accepted).mpr ⟨fits, by omega, sound.below_bad⟩
  · exact sound_of_bounded accepted

end Parse

/-- The fields of a volume of 2048 sectors with one-sector clusters, and a table of as many sectors. -/
def bootSectorWith (fatSize : UInt8) : Sector := fun k =>
  if k = 12 then 2 else if k = 13 then 1 else if k = 14 then 32 else if k = 16 then 1 else if k = 33 then 8
  else if k = 36 then fatSize else if k = 44 then 2 else if k = 510 then 0x55 else if k = 511 then 0xAA else 0

theorem boot_sector_sound_sized :
    (bpbParse (bootSectorWith 16)).Sound ∧ (bpbParse (bootSectorWith 16)).NoWrap :=
  (boot_sector_sound_iff (bootSectorWith 16) (by decide)).mpr ⟨by decide, by decide⟩

theorem boot_sector_unsound :
    ¬∀ sector, bpbIsValid (bpbParse sector) sector = true → (bpbParse sector).Sound ∧ (bpbParse sector).NoWrap := by
  intro holds
  obtain ⟨sound, -⟩ := holds (bootSectorWith 1) (by decide)
  exact absurd (sound.entry_inside 128 (by decide) (by decide)) (by decide)

end XSDK.Fs
