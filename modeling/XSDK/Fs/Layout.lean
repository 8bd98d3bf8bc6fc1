import XSDK.Fs.Mount

/-! What a disk holds for a mounted volume: the links of its clusters and the entries of its
directories, with the sectors where they are. -/
namespace XSDK.Fs

open Library Prog

variable (ctx : Context)

def fatEntry (disk : Nat → Sector) (cluster : Nat) : Nat :=
  readLE32 (disk (fatSector ctx cluster)) (fatOffset ctx cluster) % fat32EntryMask

/-- The sector and the offset of an entry of a directory's cluster. -/
def entrySector (cluster index : Nat) : Nat :=
  word32 (clusterToSector ctx cluster + index / (ctx.bytesPerSector / fat32DirectoryEntrySize))

def entryOffset (index : Nat) : Nat :=
  index % (ctx.bytesPerSector / fat32DirectoryEntrySize) * fat32DirectoryEntrySize

def entryAt (disk : Nat → Sector) (cluster index : Nat) : DirectoryEntry :=
  fun k => disk (entrySector ctx cluster index) (entryOffset ctx index + k)

/-- A volume whose tables have an entry for every cluster and lie before its clusters, all of
them on sectors that the code's words can number. -/
structure Geometry : Prop where
  mounted : ctx.isMounted = true
  bytesPerSector : ctx.bytesPerSector = sectorSize
  sectorsPerCluster : 0 < ctx.sectorsPerCluster
  clusterSize : ctx.sectorsPerCluster ≤ 0xFF
  reserved : 0 < ctx.fatStartSector
  covered : (ctx.totalClusters + 2) * fat32EntrySize ≤ (ctx.clusterHeapStart - ctx.fatStartSector) * sectorSize
  inside : ctx.clusterHeapStart + ctx.totalClusters * ctx.sectorsPerCluster < 2 ^ 32
  numbers : ctx.totalClusters + 2 ≤ 0x0FFFFFF7
  root : inRange ctx ctx.rootDirCluster = true

namespace Geometry

variable {ctx} {cluster index : Nat} (geometry : Geometry ctx)
include geometry

theorem inRange_iff : inRange ctx cluster = true ↔ 2 ≤ cluster ∧ cluster < 2 + ctx.totalClusters := by
  have small := geometry.numbers
  have sum : word32 (fat32ClusterMin + ctx.totalClusters) = 2 + ctx.totalClusters := by
    apply word32_of_lt
    simp only [fat32ClusterMin]
    omega
  rw [inRange, sum]
  exact decide_eq_true_iff

section

variable (known : inRange ctx cluster = true)
include known

theorem clusterToSector_eq :
    clusterToSector ctx cluster = ctx.clusterHeapStart + (cluster - 2) * ctx.sectorsPerCluster := by
  obtain ⟨low, high⟩ := geometry.inRange_iff.mp known
  have inside := geometry.inside
  have product : (cluster - 2) * ctx.sectorsPerCluster ≤ ctx.totalClusters * ctx.sectorsPerCluster := by
    apply Nat.mul_le_mul_right
    omega
  have split : ctx.clusterHeapStart + (cluster + 2 ^ 32 - 2) * ctx.sectorsPerCluster =
      ctx.clusterHeapStart + (cluster - 2) * ctx.sectorsPerCluster + 2 ^ 32 * ctx.sectorsPerCluster := by
    have numerator : cluster + 2 ^ 32 - 2 = (cluster - 2) + 2 ^ 32 := by omega
    rw [numerator, Nat.add_mul, Nat.add_assoc]
  rw [clusterToSector, split, word32, Nat.add_mul_mod_self_left]
  exact Nat.mod_eq_of_lt (by omega)

theorem cluster_end :
    clusterToSector ctx cluster + ctx.sectorsPerCluster ≤
      ctx.clusterHeapStart + ctx.totalClusters * ctx.sectorsPerCluster := by
  obtain ⟨low, high⟩ := geometry.inRange_iff.mp known
  have last : (cluster - 2 + 1) * ctx.sectorsPerCluster ≤ ctx.totalClusters * ctx.sectorsPerCluster := by
    apply Nat.mul_le_mul_right
    omega
  rw [Nat.add_mul, Nat.one_mul] at last
  rw [geometry.clusterToSector_eq known]
  omega

theorem fatSector_eq : fatSector ctx cluster = ctx.fatStartSector + cluster * 4 / 512 := by
  obtain ⟨low, high⟩ := geometry.inRange_iff.mp known
  have small := geometry.numbers
  have inside := geometry.inside
  have covered := geometry.covered
  simp only [fat32EntrySize, sectorSize] at covered
  have product : word32 (cluster * fat32EntrySize) = cluster * 4 := word32_of_lt (by simp only [fat32EntrySize]; omega)
  rw [fatSector, product, geometry.bytesPerSector, sectorSize]
  exact word32_of_lt (by omega)

theorem fatOffset_eq : fatOffset ctx cluster = cluster * 4 % 512 := by
  obtain ⟨low, high⟩ := geometry.inRange_iff.mp known
  have small := geometry.numbers
  have product : word32 (cluster * fat32EntrySize) = cluster * 4 := word32_of_lt (by simp only [fat32EntrySize]; omega)
  rw [fatOffset, product, geometry.bytesPerSector, sectorSize]

theorem fatSector_bounds :
    ctx.fatStartSector ≤ fatSector ctx cluster ∧ fatSector ctx cluster < ctx.clusterHeapStart := by
  obtain ⟨low, high⟩ := geometry.inRange_iff.mp known
  have covered := geometry.covered
  simp only [fat32EntrySize, sectorSize] at covered
  rw [geometry.fatSector_eq known]
  omega

end

theorem entriesPerCluster_eq : entriesPerCluster ctx = 16 * ctx.sectorsPerCluster := by
  have positive := geometry.sectorsPerCluster
  rw [entriesPerCluster, geometry.bytesPerSector, if_neg (by simp only [sectorSize]; omega)]
  rfl

theorem entrySector_eq (known : inRange ctx cluster = true) (bound : index < entriesPerCluster ctx) :
    entrySector ctx cluster index = clusterToSector ctx cluster + index / 16 ∧ index / 16 < ctx.sectorsPerCluster := by
  have last := geometry.cluster_end known
  have inside := geometry.inside
  rw [geometry.entriesPerCluster_eq] at bound
  have row : index / 16 < ctx.sectorsPerCluster := by omega
  have perSector : ctx.bytesPerSector / fat32DirectoryEntrySize = 16 := by rw [geometry.bytesPerSector]; rfl
  rw [entrySector, perSector]
  exact ⟨word32_of_lt (by omega), row⟩

end Geometry
end XSDK.Fs

/-! The layout that formatting settles on: what the passes leave behind, and for which
requests it is the one that unbounded integers give. -/
namespace XSDK.Fs

open Library Prog

variable (config : FormatConfig) (layout : FormatLayout)

structure Resolved : Prop where
  heap : layout.clusterHeapStart = formatHeapStart config layout.fatSize
  heap_lt : layout.clusterHeapStart < config.sectorCount.toNat
  clusters : layout.totalClusters = formatTotalClusters config layout.fatSize
  nonempty : layout.totalClusters ≠ 0
  asked : config.fatSize.toNat ≠ 0 →
    layout.fatSize = config.fatSize.toNat ∧ formatNeededFatSize config layout.totalClusters ≤ layout.fatSize
  solved : config.fatSize.toNat = 0 → formatNeededFatSize config layout.totalClusters = layout.fatSize

variable {config layout}

theorem formatResolveFrom_resolved {left fatSize : Nat}
    (first : config.fatSize.toNat ≠ 0 → fatSize = config.fatSize.toNat)
    (run : formatResolveFrom config left fatSize = some layout) : Resolved config layout := by
  induction left generalizing fatSize with
  | zero => cases run
  | succ left ih =>
    rw [formatResolveFrom] at run
    split at run
    · cases run
    · next room =>
      dsimp only at run
      split at run
      · cases run
      · next nonempty =>
        split at run
        · cases run
        · next enough =>
          split at run
          · next settled =>
            cases run
            refine ⟨rfl, Nat.lt_of_not_le room, rfl, nonempty, ?_, ?_⟩
            · intro given
              exact ⟨first given, Nat.le_of_not_lt fun short => enough ⟨given, short⟩⟩
            · intro open'
              rcases settled with given | fixed
              · exact absurd open' given
              · exact fixed
          · next unsettled =>
            apply ih _ run
            intro given
            exact absurd (.inl given) unsettled

theorem formatResolveLayout_resolved (run : formatResolveLayout config = some layout) :
    Resolved config layout ∧ config.rootDirCluster.toNat < word32 (fat32ClusterMin + layout.totalClusters) := by
  rw [formatResolveLayout] at run
  split at run
  · cases run
  · next found solved =>
    split at run
    · cases run
    · next root =>
      cases run
      refine ⟨formatResolveFrom_resolved ?_ solved, by omega⟩
      intro given
      exact if_neg given

structure Validated (config : FormatConfig) : Prop where
  sector : config.bytesPerSector.toNat = sectorSize
  cluster : 0 < config.sectorsPerCluster.toNat
  cluster_le : config.sectorsPerCluster.toNat ≤ 0xFF
  reserved : 0 < config.reservedSectorCount.toNat
  reserved_le : config.reservedSectorCount.toNat ≤ 0xFFFF
  fats : 0 < config.fatCount.toNat
  fats_le : config.fatCount.toNat ≤ 0xFF
  root : 2 ≤ config.rootDirCluster.toNat

theorem formatValidateConfig_validated (valid : formatValidateConfig config = true) : Validated config := by
  rw [formatValidateConfig, decide_eq_true_iff] at valid
  obtain ⟨sector, _, cluster, cluster_le, reserved, reserved_le, fats, fats_le, root⟩ := valid
  exact ⟨sector, by omega, cluster_le, by omega, reserved_le, by omega, fats_le, of_decide_eq_true root⟩

/-- The most clusters whose numbers stay below the first one that marks a bad cluster. -/
def mostClusters : Nat := 0x0FFFFFF5

/-- The size of the tables that `mostClusters` need. -/
def mostFatSize : Nat := 2 ^ 21

variable (config) in
/-- The tables that were asked for leave sectors behind them, and what is left behind these
tables, or behind the largest ones when no size was asked for, makes no more than `mostClusters`. -/
def FormatFits : Prop :=
  (config.fatSize.toNat ≠ 0 →
    config.reservedSectorCount.toNat + config.fatCount.toNat * config.fatSize.toNat < config.sectorCount.toNat) ∧
  (config.sectorCount.toNat - config.reservedSectorCount.toNat -
    config.fatCount.toNat * (if config.fatSize.toNat = 0 then mostFatSize else config.fatSize.toNat)) /
      config.sectorsPerCluster.toNat ≤ mostClusters

instance : Decidable (FormatFits config) := inferInstanceAs (Decidable (_ ∧ _))

/-- The layout over unbounded integers. -/
structure Exact (config : FormatConfig) (layout : FormatLayout) : Prop where
  heap : layout.clusterHeapStart =
    config.reservedSectorCount.toNat + config.fatCount.toNat * layout.fatSize
  inside : layout.clusterHeapStart + layout.totalClusters * config.sectorsPerCluster.toNat ≤ config.sectorCount.toNat
  covered : (layout.totalClusters + 2) * fat32EntrySize ≤ layout.fatSize * sectorSize
  numbers : layout.totalClusters ≤ mostClusters

/-- Without wrap-around a table has room for every entry, and not for a sector more. -/
theorem formatNeededFatSize_eq (valid : Validated config) {totalClusters : Nat} (small : totalClusters + 130 < 2 ^ 30) :
    formatNeededFatSize config totalClusters = ((totalClusters + 2) * 4 + 511) / 512 := by
  have count : word32 (totalClusters + fat32ClusterMin) = totalClusters + 2 :=
    word32_of_lt (by simp only [fat32ClusterMin]; omega)
  have bytes : word32 ((totalClusters + 2) * fat32EntrySize) = (totalClusters + 2) * 4 :=
    word32_of_lt (by simp only [fat32EntrySize]; omega)
  have rounded : word32 ((totalClusters + 2) * 4 + 512 + 2 ^ 32 - 1) = (totalClusters + 2) * 4 + 511 := by
    rw [word32]
    omega
  rw [formatNeededFatSize, formatDivRoundUp, count, bytes, valid.sector, sectorSize, rounded]

theorem formatNeededFatSize_lt (valid : Validated config) (totalClusters : Nat) :
    formatNeededFatSize config totalClusters < 2 ^ 23 := by
  have bound := word32_lt
    (word32 (word32 (totalClusters + fat32ClusterMin) * fat32EntrySize) + 512 + 2 ^ 32 - 1)
  rw [formatNeededFatSize, formatDivRoundUp, valid.sector, sectorSize]
  omega

theorem Resolved.clusters_eq (resolved : Resolved config layout)
    (heap : layout.clusterHeapStart = config.reservedSectorCount.toNat + config.fatCount.toNat * layout.fatSize) :
    layout.totalClusters = (config.sectorCount.toNat - config.reservedSectorCount.toNat -
      config.fatCount.toNat * layout.fatSize) / config.sectorsPerCluster.toNat := by
  rw [resolved.clusters, formatTotalClusters, ← resolved.heap, heap, Nat.sub_add_eq]

theorem Resolved.inside (resolved : Resolved config layout) :
    layout.clusterHeapStart + layout.totalClusters * config.sectorsPerCluster.toNat ≤ config.sectorCount.toNat := by
  have room := resolved.heap_lt
  have quotient := Nat.div_mul_le_self (config.sectorCount.toNat - layout.clusterHeapStart) config.sectorsPerCluster.toNat
  rw [resolved.heap] at room quotient ⊢
  rw [resolved.clusters, formatTotalClusters]
  omega

theorem Resolved.fatSize_le (valid : Validated config) (resolved : Resolved config layout)
    (chosen : config.fatSize.toNat = 0) (few : layout.totalClusters ≤ mostClusters) : layout.fatSize ≤ mostFatSize := by
  rw [mostClusters] at few
  rw [← resolved.solved chosen, formatNeededFatSize_eq valid (by omega), mostFatSize]
  omega

theorem Resolved.heap_of_chosen (valid : Validated config) (resolved : Resolved config layout)
    (chosen : config.fatSize.toNat = 0) :
    layout.clusterHeapStart = config.reservedSectorCount.toNat + config.fatCount.toNat * layout.fatSize := by
  have small := formatNeededFatSize_lt valid layout.totalClusters
  rw [resolved.solved chosen] at small
  have product : config.fatCount.toNat * layout.fatSize ≤ 0xFF * layout.fatSize :=
    Nat.mul_le_mul_right _ valid.fats_le
  have reserved := valid.reserved_le
  have tables : word32 (config.fatCount.toNat * layout.fatSize) = config.fatCount.toNat * layout.fatSize :=
    word32_of_lt (by omega)
  rw [resolved.heap, formatHeapStart, tables, word32_of_lt (by omega)]

theorem Resolved.heap_of_asked (resolved : Resolved config layout) (fits : FormatFits config)
    (given : config.fatSize.toNat ≠ 0) :
    layout.clusterHeapStart = config.reservedSectorCount.toNat + config.fatCount.toNat * layout.fatSize := by
  have room := fits.1 given
  have words := config.sectorCount.toNat_lt
  have tables : word32 (config.fatCount.toNat * config.fatSize.toNat) =
      config.fatCount.toNat * config.fatSize.toNat := word32_of_lt (by omega)
  rw [resolved.heap, formatHeapStart, (resolved.asked given).1, tables, word32_of_lt (by omega)]

/-- With a size of the code's choosing the clusters stay below the bound: behind smaller tables
than the largest ones there would be too few entries for more of them. -/
theorem Resolved.few_of_chosen (valid : Validated config) (resolved : Resolved config layout)
    (fits : FormatFits config) (chosen : config.fatSize.toNat = 0) : layout.totalClusters ≤ mostClusters := by
  have count := resolved.clusters_eq (resolved.heap_of_chosen valid chosen)
  have behind := fits.2
  rw [if_pos chosen] at behind
  have positive := valid.cluster
  by_cases large : mostFatSize ≤ layout.fatSize
  · have tables : config.fatCount.toNat * mostFatSize ≤ config.fatCount.toNat * layout.fatSize :=
      Nat.mul_le_mul_left _ large
    rw [count]
    exact Nat.le_trans (Nat.div_le_div_right (Nat.sub_le_sub_left tables _)) behind
  · have data : config.sectorCount.toNat - config.reservedSectorCount.toNat - config.fatCount.toNat * mostFatSize <
        (mostClusters + 1) * config.sectorsPerCluster.toNat :=
      (Nat.div_lt_iff_lt_mul positive).mp (by omega)
    have used : layout.totalClusters * config.sectorsPerCluster.toNat ≤
        config.sectorCount.toNat - config.reservedSectorCount.toNat - config.fatCount.toNat * layout.fatSize := by
      rw [count]
      exact Nat.div_mul_le_self _ _
    have tables : config.fatCount.toNat * mostFatSize ≤ (0xFF * mostFatSize) * config.sectorsPerCluster.toNat :=
      Nat.le_trans (Nat.mul_le_mul_right _ valid.fats_le) (Nat.le_mul_of_pos_right _ positive)
    have loose : layout.totalClusters * config.sectorsPerCluster.toNat ≤
        (mostClusters + 1 + 0xFF * mostFatSize) * config.sectorsPerCluster.toNat := by
      rw [Nat.add_mul (mostClusters + 1)]
      omega
    have bound := Nat.le_of_mul_le_mul_right loose positive
    have solved := resolved.solved chosen
    rw [mostClusters, mostFatSize] at bound
    rw [mostFatSize] at large
    rw [formatNeededFatSize_eq valid (by omega)] at solved
    rw [mostClusters]
    omega

theorem Resolved.exact_of_fits (valid : Validated config) (resolved : Resolved config layout)
    (fits : FormatFits config) : Exact config layout := by
  by_cases chosen : config.fatSize.toNat = 0
  · have few := resolved.few_of_chosen valid fits chosen
    refine ⟨resolved.heap_of_chosen valid chosen, resolved.inside, ?_, few⟩
    have solved := resolved.solved chosen
    rw [mostClusters] at few
    rw [formatNeededFatSize_eq valid (by omega)] at solved
    rw [fat32EntrySize, sectorSize]
    omega
  · have heap := resolved.heap_of_asked fits chosen
    have few := fits.2
    obtain ⟨size, needed⟩ := resolved.asked chosen
    rw [if_neg chosen, ← size, ← resolved.clusters_eq heap] at few
    refine ⟨heap, resolved.inside, ?_, few⟩
    rw [mostClusters] at few
    rw [formatNeededFatSize_eq valid (by omega)] at needed
    rw [fat32EntrySize, sectorSize]
    omega

theorem Resolved.fits_of_exact (valid : Validated config) (resolved : Resolved config layout)
    (exact' : Exact config layout) : FormatFits config := by
  have count := resolved.clusters_eq exact'.heap
  have few := exact'.numbers
  constructor
  · intro given
    rw [← (resolved.asked given).1, ← exact'.heap]
    exact resolved.heap_lt
  · by_cases chosen : config.fatSize.toNat = 0
    · rw [if_pos chosen]
      have tables : config.fatCount.toNat * layout.fatSize ≤ config.fatCount.toNat * mostFatSize :=
        Nat.mul_le_mul_left _ (resolved.fatSize_le valid chosen few)
      rw [count] at few
      exact Nat.le_trans (Nat.div_le_div_right (Nat.sub_le_sub_left tables _)) few
    · rw [if_neg chosen, ← (resolved.asked chosen).1, ← count]
      exact few

end XSDK.Fs
