import XSDK.Fs.View

/-! Mounting what formatting wrote. -/
namespace XSDK.Fs

open Library Prog

section BootSector

variable {sector : Sector} {offset value k j : Nat} {bytes : List UInt8}

theorem copyBytes_before (h : k < offset) : copyBytes sector offset bytes k = sector k := if_neg (by omega)

theorem setByte_other (h : k ≠ offset) : setByte sector offset value k = sector k := Function.update_of_ne h _ _

theorem setByte_same (sector : Sector) (offset value : Nat) :
    setByte sector offset value offset = UInt8.ofNat value := Function.update_self _ _ _

theorem readLE16_setByte (apart : j + 2 ≤ offset ∨ offset + 1 ≤ j) :
    readLE16 (setByte sector offset value) j = readLE16 sector j :=
  readLE16_congr fun i h => setByte_other (by omega)

variable {config : FormatConfig} {layout : FormatLayout}

theorem formatBootSector_geometry (h : k < 40) :
    formatBootSector config layout k = bootSectorGeometry config layout k := by
  simp only [formatBootSector, volumeLabelOffset, fat32RootClusterOffset, fat32BootSignatureOffset]
  rw [writeLE16_other (by omega), copyBytes_before (by omega), copyBytes_before (by omega),
    writeLE32_other (by omega), setByte_other (by omega), setByte_other (by omega),
    writeLE16_other (by omega), writeLE16_other (by omega), writeLE32_other (by omega),
    writeLE16_other (by omega), writeLE16_other (by omega)]

theorem boot_readLE16 (h : k + 2 ≤ 40) :
    readLE16 (formatBootSector config layout) k = readLE16 (bootSectorGeometry config layout) k :=
  readLE16_congr fun i _ => formatBootSector_geometry (by omega)

theorem boot_readLE32 (h : k + 4 ≤ 40) :
    readLE32 (formatBootSector config layout) k = readLE32 (bootSectorGeometry config layout) k :=
  readLE32_congr fun i _ => formatBootSector_geometry (by omega)

theorem boot_bytesPerSector :
    readLE16 (formatBootSector config layout) fat32BytesPerSectorOffset = word16 config.bytesPerSector.toNat := by
  rw [boot_readLE16 (by decide)]
  simp (disch := omega) only [bootSectorGeometry, fat32BytesPerSectorOffset, fat32SectorsPerClusterOffset,
    fat32ReservedSectorCountOffset, fat32NumberOfFatsOffset, fat32TotalSectors32Offset, fat32Size32Offset,
    readLE16_write_other, readLE16_write32_other, readLE16_setByte, readLE16_write]

theorem boot_reservedSectorCount :
    readLE16 (formatBootSector config layout) fat32ReservedSectorCountOffset =
      word16 config.reservedSectorCount.toNat := by
  rw [boot_readLE16 (by decide)]
  simp (disch := omega) only [bootSectorGeometry, fat32BytesPerSectorOffset, fat32SectorsPerClusterOffset,
    fat32ReservedSectorCountOffset, fat32NumberOfFatsOffset, fat32TotalSectors32Offset, fat32Size32Offset,
    readLE16_write_other, readLE16_write32_other, readLE16_setByte, readLE16_write]

theorem boot_sectorsPerCluster :
    formatBootSector config layout fat32SectorsPerClusterOffset = UInt8.ofNat config.sectorsPerCluster.toNat := by
  rw [formatBootSector_geometry (by decide)]
  simp (disch := omega) only [bootSectorGeometry, fat32BytesPerSectorOffset, fat32SectorsPerClusterOffset,
    fat32ReservedSectorCountOffset, fat32NumberOfFatsOffset, fat32TotalSectors32Offset, fat32Size32Offset,
    writeLE16_other, writeLE32_other, setByte_other, setByte_same]

theorem boot_numberOfFats :
    formatBootSector config layout fat32NumberOfFatsOffset = UInt8.ofNat config.fatCount.toNat := by
  rw [formatBootSector_geometry (by decide)]
  simp (disch := omega) only [bootSectorGeometry, fat32BytesPerSectorOffset, fat32SectorsPerClusterOffset,
    fat32ReservedSectorCountOffset, fat32NumberOfFatsOffset, fat32TotalSectors32Offset, fat32Size32Offset,
    writeLE16_other, writeLE32_other, setByte_other, setByte_same]

theorem boot_totalSectors :
    readLE32 (formatBootSector config layout) fat32TotalSectors32Offset = word32 config.sectorCount.toNat := by
  rw [boot_readLE32 (by decide)]
  simp (disch := omega) only [bootSectorGeometry, fat32TotalSectors32Offset, fat32Size32Offset,
    readLE32_write_other, readLE32_write]

theorem boot_fatSize : readLE32 (formatBootSector config layout) fat32Size32Offset = word32 layout.fatSize := by
  rw [boot_readLE32 (by decide)]
  exact readLE32_write _ _ _

theorem boot_rootDirCluster :
    readLE32 (formatBootSector config layout) fat32RootClusterOffset = word32 config.rootDirCluster.toNat := by
  have field : readLE32 (formatBootSector config layout) fat32RootClusterOffset =
      readLE32 (writeLE32 (writeLE16 (writeLE16 (bootSectorGeometry config layout) 40 0) 42 0) fat32RootClusterOffset
        config.rootDirCluster.toNat) fat32RootClusterOffset := by
    apply readLE32_congr
    intro i h
    simp only [formatBootSector, volumeLabelOffset, fat32BootSignatureOffset]
    rw [fat32RootClusterOffset, writeLE16_other (by omega), copyBytes_before (by omega), copyBytes_before (by omega),
      writeLE32_other (by omega), setByte_other (by omega), setByte_other (by omega),
      writeLE16_other (by omega), writeLE16_other (by omega)]
  rw [field, readLE32_write]

theorem boot_signature :
    readLE16 (formatBootSector config layout) fat32BootSignatureOffset = fat32BootSignatureValue :=
  readLE16_write _ _ _

theorem bpbParse_formatBootSector (valid : Validated config) (resolved : Resolved config layout)
    (words : layout.fatSize < 2 ^ 32) :
    bpbParse (formatBootSector config layout) =
      { bytesPerSector := sectorSize,
        sectorsPerCluster := config.sectorsPerCluster.toNat,
        numberOfFats := config.fatCount.toNat,
        reservedSectorCount := config.reservedSectorCount.toNat,
        totalSectors := config.sectorCount.toNat,
        fatSize := layout.fatSize,
        fatStartSector := config.reservedSectorCount.toNat,
        clusterHeapStart := layout.clusterHeapStart,
        totalClusters := layout.totalClusters,
        rootDirCluster := config.rootDirCluster.toNat } := by
  have cluster : (UInt8.ofNat config.sectorsPerCluster.toNat).toNat = config.sectorsPerCluster.toNat := by
    have bound := valid.cluster_le
    rw [UInt8.toNat_ofNat']
    omega
  have fats : (UInt8.ofNat config.fatCount.toNat).toNat = config.fatCount.toNat := by
    have bound := valid.fats_le
    rw [UInt8.toNat_ofNat']
    omega
  have sector : word16 config.bytesPerSector.toNat = sectorSize := by
    rw [valid.sector]
    rfl
  have reserved : word16 config.reservedSectorCount.toNat = config.reservedSectorCount.toNat :=
    word16_of_lt (by have bound := valid.reserved_le; omega)
  have positive : config.sectorsPerCluster.toNat ≠ 0 := by have bound := valid.cluster; omega
  have behind : word32 (config.sectorCount.toNat + 2 ^ 32 - layout.clusterHeapStart) =
      config.sectorCount.toNat - layout.clusterHeapStart := by
    have room := resolved.heap_lt
    have bound := config.sectorCount.toNat_lt
    rw [word32]
    omega
  have heap := resolved.heap
  rw [formatHeapStart] at heap
  simp only [bpbParse, boot_bytesPerSector, boot_sectorsPerCluster, boot_reservedSectorCount, boot_numberOfFats,
    boot_totalSectors, boot_fatSize, boot_rootDirCluster, cluster, fats, sector, reserved, ne_eq, positive,
    not_false_eq_true, if_true, word32_of_lt words, word32_of_lt config.sectorCount.toNat_lt,
    word32_of_lt config.rootDirCluster.toNat_lt, ← heap, behind]
  rw [resolved.clusters, formatTotalClusters, ← resolved.heap]

end BootSector

section Writes

variable {env : Env} {config : FormatConfig} {layout : FormatLayout} {start : List Request}

variable {requests : List Request} {Q : Io → Prop} {call : Request}

theorem request_keeps :
    Triple (fun io => Q { io with requests := call :: io.requests }) (request env call) (fun _ => Q)
      fun _ _ => True := by
  refine .bind (R := fun _ => Q) (.modify fun _ h => h) fun _ => .bind (R := fun _ => Q) (.read fun _ h => h) ?_
  intro requests
  cases env.fails requests with
  | none => exact .pure fun _ h => h
  | some _ => exact .fail fun _ _ => trivial

theorem writeSector_keeps {sector : Nat} {buffer : Sector} :
    Triple (fun io => Q { io with
        requests := .write sector :: io.requests, disk := Function.update io.disk sector buffer })
      (writeSector env sector buffer) (fun _ => Q) fun _ _ => True :=
  .bind (R := fun _ io => Q { io with disk := Function.update io.disk sector buffer })
    (request_keeps (Q := fun io => Q { io with disk := Function.update io.disk sector buffer }))
    fun _ => .modify fun _ h => h

def rootSector (config : FormatConfig) (layout : FormatLayout) : Nat :=
  layout.clusterHeapStart + (config.rootDirCluster.toNat - fat32ClusterMin) * config.sectorsPerCluster.toNat

/-- The sectors of the first table and of the root directory that were written so far, and
where the calls since the start wrote. -/
structure Laid (config : FormatConfig) (layout : FormatLayout) (start : List Request) (fats roots : Nat → Prop)
    (io : Io) : Prop where
  boot : io.disk 0 = formatBootSector config layout
  table : ∀ s < layout.fatSize, fats s → io.disk (config.reservedSectorCount.toNat + s) = formatFatSector config s
  root : ∀ k < config.sectorsPerCluster.toNat, roots k → io.disk (rootSector config layout + k) = zeroSector
  writes : ∃ calls, io.requests = calls ++ start ∧ ∀ sector, .write sector ∈ calls → sector < config.sectorCount.toNat

theorem writes_cons {sector limit : Nat} (bound : sector < limit)
    (writes : ∃ calls, requests = calls ++ start ∧ ∀ s, .write s ∈ calls → s < limit) :
    ∃ calls, .write sector :: requests = calls ++ start ∧ ∀ s, .write s ∈ calls → s < limit := by
  obtain ⟨calls, same, below⟩ := writes
  refine ⟨.write sector :: calls, by rw [same, List.cons_append], ?_⟩
  intro s member
  rcases List.mem_cons.mp member with first | rest
  · cases first
    exact bound
  · exact below s rest

variable (valid : Validated config) (exact' : Exact config layout)
include valid exact'

theorem fat_write (env : Env) (start : List Request) {i k : Nat} (copy : i < config.fatCount.toNat)
    (row : k < layout.fatSize) :
    Triple (Laid config layout start (fun s => 0 < i ∨ s < k) fun _ => False)
      (writeSector env (word32 (config.reservedSectorCount.toNat + i * layout.fatSize + k)) (formatFatSector config k))
      (fun _ => Laid config layout start (fun s => 0 < i ∨ s < k + 1) fun _ => False) fun _ _ => True := by
  have tables : (i + 1) * layout.fatSize ≤ config.fatCount.toNat * layout.fatSize := Nat.mul_le_mul_right _ copy
  rw [Nat.add_mul, Nat.one_mul] at tables
  have heap := exact'.heap
  have inside := exact'.inside
  have words := config.sectorCount.toNat_lt
  have before : config.reservedSectorCount.toNat + i * layout.fatSize + k < config.sectorCount.toNat := by omega
  rw [word32_of_lt (by omega)]
  refine writeSector_keeps.weaken ?_ (fun _ _ h => h) fun _ _ h => h
  intro io laid
  have reserved := valid.reserved
  have other : ∀ s, s ≠ config.reservedSectorCount.toNat + i * layout.fatSize + k →
      Function.update io.disk (config.reservedSectorCount.toNat + i * layout.fatSize + k) (formatFatSector config k) s =
        io.disk s := fun s h => Function.update_of_ne h _ _
  refine ⟨(other 0 (by omega)).trans laid.boot, ?_, fun _ _ none => none.elim, writes_cons before laid.writes⟩
  intro s row' written
  by_cases first : i = 0
  · subst first
    rw [Nat.zero_mul, Nat.add_zero] at other ⊢
    by_cases same : s = k
    · subst same
      exact Function.update_self _ _ _
    · exact (other _ (by omega)).trans (laid.table s row' (.inr (by omega)))
  · have later : layout.fatSize ≤ i * layout.fatSize := Nat.le_mul_of_pos_left _ (by omega)
    exact (other _ (by omega)).trans (laid.table s row' (.inl (by omega)))

theorem formatWriteFatTables_laid :
    Triple (Laid config layout start (fun _ => False) fun _ => False) (formatWriteFatTables env config layout)
      (fun _ => Laid config layout start (fun _ => True) fun _ => False) fun _ _ => True := by
  have copies : Triple (Laid config layout start (fun _ => 0 < 0) fun _ => False)
      (formatWriteFatTables env config layout)
      (fun _ => Laid config layout start (fun _ => 0 < 0 + config.fatCount.toNat) fun _ => False) fun _ _ => True := by
    apply Triple.forEach (I := fun i => Laid config layout start (fun _ => 0 < i) fun _ => False)
    intro i _ copy
    have rows := Triple.forEach (n := layout.fatSize) (k := 0)
      (I := fun k => Laid config layout start (fun s => 0 < i ∨ s < k) fun _ => False)
      fun k _ row => fat_write valid exact' env start (i := i) (k := k) (by omega) (by omega)
    refine rows.weaken ?_ ?_ fun _ _ h => h
    · intro io laid
      exact ⟨laid.boot, fun s row written => laid.table s row (by omega), laid.root, laid.writes⟩
    · intro _ io laid
      exact ⟨laid.boot, fun s row _ => laid.table s row (.inr (by omega)), laid.root, laid.writes⟩
  have positive := valid.fats
  refine copies.weaken ?_ ?_ fun _ _ h => h
  · intro io laid
    exact ⟨laid.boot, fun s row written => laid.table s row (by omega), laid.root, laid.writes⟩
  · intro _ io laid
    exact ⟨laid.boot, fun s row _ => laid.table s row (by omega), laid.root, laid.writes⟩

variable (known : config.rootDirCluster.toNat < 2 + layout.totalClusters)
include known

theorem root_end : rootSector config layout + config.sectorsPerCluster.toNat ≤ config.sectorCount.toNat := by
  have low := valid.root
  have inside := exact'.inside
  have last : (config.rootDirCluster.toNat - 2 + 1) * config.sectorsPerCluster.toNat ≤
      layout.totalClusters * config.sectorsPerCluster.toNat := by
    apply Nat.mul_le_mul_right
    omega
  rw [Nat.add_mul, Nat.one_mul] at last
  rw [rootSector, fat32ClusterMin]
  omega

theorem root_write (env : Env) (start : List Request) {k : Nat} (row : k < config.sectorsPerCluster.toNat) :
    Triple (Laid config layout start (fun _ => True) fun s => s < k)
      (writeSector env (word32 (rootSector config layout + k)) zeroSector)
      (fun _ => Laid config layout start (fun _ => True) fun s => s < k + 1) fun _ _ => True := by
  have last := root_end valid exact' known
  have heap := exact'.heap
  have reserved := valid.reserved
  have positive := valid.fats
  have tables : layout.fatSize ≤ config.fatCount.toNat * layout.fatSize := Nat.le_mul_of_pos_left _ positive
  have words := config.sectorCount.toNat_lt
  have behind : layout.clusterHeapStart ≤ rootSector config layout := Nat.le_add_right _ _
  rw [word32_of_lt (by omega)]
  refine writeSector_keeps.weaken ?_ (fun _ _ h => h) fun _ _ h => h
  intro io laid
  have other : ∀ s, s ≠ rootSector config layout + k →
      Function.update io.disk (rootSector config layout + k) zeroSector s = io.disk s :=
    fun s h => Function.update_of_ne h _ _
  refine ⟨(other 0 (by omega)).trans laid.boot, ?_, ?_, writes_cons (by omega) laid.writes⟩
  · intro s row' written
    exact (other _ (by omega)).trans (laid.table s row' written)
  · intro s row' written
    by_cases same : s = k
    · subst same
      exact Function.update_self _ _ _
    · exact (other _ (by omega)).trans (laid.root s row' (by omega))

theorem formatWriteRootDirectory_laid :
    Triple (Laid config layout start (fun _ => True) fun _ => False) (formatWriteRootDirectory env config layout)
      (fun _ => Laid config layout start (fun _ => True) fun _ => True) fun _ _ => True := by
  have rows := Triple.forEach (n := config.sectorsPerCluster.toNat) (k := 0)
    (I := fun k => Laid config layout start (fun _ => True) fun s => s < k)
    fun k _ row => root_write valid exact' known env start (k := k) (by omega)
  refine rows.weaken ?_ ?_ fun _ _ h => h
  · intro io laid
    exact ⟨laid.boot, laid.table, fun s row written => laid.root s row (by omega), laid.writes⟩
  · intro _ io laid
    exact ⟨laid.boot, laid.table, fun s row _ => laid.root s row (by omega), laid.writes⟩

omit valid exact' known in
theorem writes_append {limit : Nat} (other : ∀ s, call ≠ .write s)
    (writes : ∃ calls, requests = calls ++ start ∧ ∀ s, .write s ∈ calls → s < limit) :
    ∃ calls, call :: requests = calls ++ start ∧ ∀ s, .write s ∈ calls → s < limit := by
  obtain ⟨calls, same, below⟩ := writes
  refine ⟨call :: calls, by rw [same, List.cons_append], ?_⟩
  intro s member
  rcases List.mem_cons.mp member with first | rest
  · exact absurd first.symm (other s)
  · exact below s rest

theorem formatFat32_laid (accepted : formatValidateConfig config = true)
    (solved : formatResolveLayout config = some layout) :
    Triple (fun io => io.requests = start) (formatFat32 env config)
      (fun _ => Laid config layout start (fun _ => True) fun _ => True) fun _ _ => True := by
  have room : 0 < config.sectorCount.toNat := by
    have last := root_end valid exact' known
    have positive := valid.cluster
    omega
  rw [formatFat32, reject_bind_neg _ (by rw [accepted]; decide)]
  simp only [solved]
  refine .bind (R := fun _ io => ∃ calls, io.requests = calls ++ start ∧
    ∀ s, .write s ∈ calls → s < config.sectorCount.toNat) (request_keeps.weaken ?_ (fun _ _ h => h) fun _ _ h => h) ?_
  · intro io first
    exact writes_append nofun ⟨[], first, nofun⟩
  intro _
  refine .bind (R := fun _ => Laid config layout start (fun _ => False) fun _ => False)
    (writeSector_keeps.weaken ?_ (fun _ _ h => h) fun _ _ h => h) ?_
  · intro io writes
    have boot : Function.update io.disk 0 (formatBootSector config layout) 0 = formatBootSector config layout :=
      Function.update_self _ _ _
    exact ⟨boot, fun _ _ none => none.elim, fun _ _ none => none.elim, writes_cons room writes⟩
  intro _
  refine .bind (formatWriteFatTables_laid valid exact') fun _ => ?_
  refine .bind (formatWriteRootDirectory_laid valid exact' known) fun _ => ?_
  refine request_keeps.weaken ?_ (fun _ _ h => h) fun _ _ h => h
  intro io laid
  exact ⟨laid.boot, laid.table, laid.root, writes_append nofun laid.writes⟩

end Writes

section Tables

variable {config : FormatConfig} {layout : FormatLayout} {sector : Sector} {cluster other value : Nat}

theorem formatWriteFatEntry_read (valid : Validated config) (small' : other < 2 ^ 30) :
    readLE32 (formatWriteFatEntry config sector (cluster * 4 / 512) other value) (cluster * 4 % 512) =
      if cluster = other then word32 value else readLE32 sector (cluster * 4 % 512) := by
  have bytes : word32 (other * fat32EntrySize) = other * 4 := word32_of_lt (by simp only [fat32EntrySize]; omega)
  rw [formatWriteFatEntry, bytes, valid.sector, sectorSize]
  by_cases same : cluster = other
  · subst same
    rw [if_pos rfl, if_pos rfl, readLE32_write]
  · rw [if_neg same]
    split
    · next row => rw [readLE32_write_other (by omega)]
    · rfl

theorem formatFatSector_read (valid : Validated config) (low : 2 ≤ cluster) (small : cluster < 2 ^ 30)
    (root : config.rootDirCluster.toNat < 2 ^ 30) :
    readLE32 (formatFatSector config (cluster * 4 / 512)) (cluster * 4 % 512) =
      if cluster = config.rootDirCluster.toNat then fat32EocMin else fat32FreeCluster := by
  simp only [formatFatSector]
  rw [formatWriteFatEntry_read valid root, formatWriteFatEntry_read valid (by decide),
    formatWriteFatEntry_read valid (by decide), if_neg (by omega : ¬cluster = 1), if_neg (by omega : ¬cluster = 0)]
  rfl

/-- The context that a mount of the formatted volume must give. -/
def formatContext (config : FormatConfig) (layout : FormatLayout) : Context :=
  { bytesPerSector := sectorSize,
    sectorsPerCluster := config.sectorsPerCluster.toNat,
    fatStartSector := config.reservedSectorCount.toNat,
    clusterHeapStart := layout.clusterHeapStart,
    totalClusters := layout.totalClusters,
    rootDirCluster := config.rootDirCluster.toNat,
    isMounted := true }

variable (valid : Validated config) (exact' : Exact config layout)
  (known : config.rootDirCluster.toNat < 2 + layout.totalClusters)
include valid exact' known

theorem formatContext_geometry : Geometry (formatContext config layout) where
  mounted := rfl
  bytesPerSector := rfl
  sectorsPerCluster := valid.cluster
  clusterSize := valid.cluster_le
  reserved := valid.reserved
  covered := by
    have heap := exact'.heap
    have tables : layout.fatSize ≤ config.fatCount.toNat * layout.fatSize := Nat.le_mul_of_pos_left _ valid.fats
    have room : layout.fatSize * sectorSize ≤
        (layout.clusterHeapStart - config.reservedSectorCount.toNat) * sectorSize := by
      apply Nat.mul_le_mul_right
      omega
    exact Nat.le_trans exact'.covered room
  inside := Nat.lt_of_le_of_lt exact'.inside config.sectorCount.toNat_lt
  numbers := by
    have few := exact'.numbers
    rw [mostClusters] at few
    change layout.totalClusters + 2 ≤ _
    omega
  root := by
    have few := exact'.numbers
    have low := valid.root
    rw [mostClusters] at few
    have sum : word32 (fat32ClusterMin + layout.totalClusters) = 2 + layout.totalClusters :=
      word32_of_lt (by simp only [fat32ClusterMin]; omega)
    have inside : 2 ≤ config.rootDirCluster.toNat ∧
        config.rootDirCluster.toNat < word32 (fat32ClusterMin + layout.totalClusters) := by
      rw [sum]
      exact ⟨low, known⟩
    exact decide_eq_true inside

end Tables

/-- A device of so many sectors: no request inside it fails. -/
def Env.Serves (env : Env) (sectors : Nat) : Prop := ∀ call requests,
  (match call with
    | .read sector => sector < sectors
    | .write sector => sector < sectors
    | _ => True) → env.fails (call :: requests) = none

/-- Formatting left a volume with this layout, and mounting it gives the same volume back: over
unbounded integers the reserved sectors, the tables and the clusters follow each other inside
the device, a table has an entry for every cluster, no cluster's number is one of the marks,
every sector that was written is on the device, the root directory has one cluster without
entries, and the other clusters are free. -/
structure RoundTrips (env : Env) (config : FormatConfig) (layout : FormatLayout) (before after : Io) : Prop where
  exact' : Exact config layout
  writes : ∃ calls, after.requests = calls ++ before.requests ∧
    ∀ sector, .write sector ∈ calls → sector < config.sectorCount.toNat
  mounts : ∃ io, mount env after = some (.ok (formatContext config layout), io)
  root : ∀ index < entriesPerCluster (formatContext config layout),
    entryAt (formatContext config layout) after.disk config.rootDirCluster.toNat index = DirectoryEntry.zero
  links : ∀ cluster, 2 ≤ cluster → cluster < 2 + layout.totalClusters →
    fatEntry (formatContext config layout) after.disk cluster =
      if cluster = config.rootDirCluster.toNat then fat32EocMin else fat32FreeCluster

section RoundTrip

variable {env : Env} {config : FormatConfig} {layout : FormatLayout} {io io' : Io}

theorem readSector_run (sector : Nat) (served : env.fails (.read sector :: io.requests) = none) :
    readSector env sector io = some (.ok (io.disk sector), { io with requests := .read sector :: io.requests }) := by
  have called : request env (.read sector) io = some (.ok (), { io with requests := .read sector :: io.requests }) := by
    rw [request, bind_ok _ (modify_run _), bind_ok _ (read_run _)]
    simp only [served]
    rfl
  rw [readSector, bind_ok _ called]
  rfl

theorem mount_formatted (valid : Validated config) (resolved : Resolved config layout) (exact' : Exact config layout)
    (known : config.rootDirCluster.toNat < 2 + layout.totalClusters)
    (boot : io.disk 0 = formatBootSector config layout) (served : env.fails (.read 0 :: io.requests) = none) :
    ∃ io', mount env io = some (.ok (formatContext config layout), io') := by
  have covered := exact'.covered
  have tables : layout.fatSize ≤ config.fatCount.toNat * layout.fatSize := Nat.le_mul_of_pos_left _ valid.fats
  have heap := exact'.heap
  have room := resolved.heap_lt
  have words := config.sectorCount.toNat_lt
  rw [fat32EntrySize, sectorSize] at covered
  have parsed := bpbParse_formatBootSector valid resolved (by omega)
  have accepted : bpbIsValid (bpbParse (formatBootSector config layout)) (formatBootSector config layout) = true := by
    have cluster := valid.cluster
    have fats := valid.fats
    have low := valid.root
    rw [parsed, bpbIsValid, decide_eq_true_iff]
    dsimp only
    refine ⟨boot_signature, rfl, by omega, by omega, by omega, room, resolved.nonempty, decide_eq_true low, ?_⟩
    rw [fat32ClusterMin]
    omega
  refine ⟨{ io with requests := .read 0 :: io.requests }, ?_⟩
  rw [mount, bind_ok _ (readSector_run 0 served), boot, reject_bind_neg _ (by rw [accepted]; decide), parsed]
  rfl

theorem formatted_root (valid : Validated config) (exact' : Exact config layout)
    (known : config.rootDirCluster.toNat < 2 + layout.totalClusters)
    (zeroed : ∀ k < config.sectorsPerCluster.toNat, io.disk (rootSector config layout + k) = zeroSector) :
    ∀ index < entriesPerCluster (formatContext config layout),
      entryAt (formatContext config layout) io.disk config.rootDirCluster.toNat index = DirectoryEntry.zero := by
  have geometry := formatContext_geometry valid exact' known
  intro index bound
  obtain ⟨sector, row⟩ := geometry.entrySector_eq geometry.root bound
  rw [geometry.clusterToSector_eq geometry.root] at sector
  funext k
  change io.disk (entrySector (formatContext config layout) (formatContext config layout).rootDirCluster index) _ = 0
  rw [sector]
  exact congrFun (zeroed _ row) _

theorem formatted_links (valid : Validated config) (exact' : Exact config layout)
    (known : config.rootDirCluster.toNat < 2 + layout.totalClusters)
    (table : ∀ s < layout.fatSize, io.disk (config.reservedSectorCount.toNat + s) = formatFatSector config s)
    {cluster : Nat} (low : 2 ≤ cluster) (high : cluster < 2 + layout.totalClusters) :
    fatEntry (formatContext config layout) io.disk cluster =
      if cluster = config.rootDirCluster.toNat then fat32EocMin else fat32FreeCluster := by
  have geometry := formatContext_geometry valid exact' known
  have inside : inRange (formatContext config layout) cluster = true := geometry.inRange_iff.mpr ⟨low, high⟩
  have covered := exact'.covered
  have few := exact'.numbers
  rw [mostClusters] at few
  rw [fat32EntrySize, sectorSize] at covered
  rw [fatEntry, geometry.fatSector_eq inside, geometry.fatOffset_eq inside]
  change readLE32 (io.disk (config.reservedSectorCount.toNat + _)) _ % _ = _
  rw [table _ (by omega), formatFatSector_read valid low (by omega) (by omega)]
  split
  · rfl
  · rfl

/-- For every request that formatting accepts on a device of its size, mounting gives back what
was asked for exactly when the request fits into the code's words. -/
theorem format_round_trip (env : Env) (config : FormatConfig) (before after : Io)
    (device : env.Serves config.sectorCount.toNat) (accepted : formatFat32 env config before = some (.ok (), after)) :
    (∃ layout, formatResolveLayout config = some layout ∧ RoundTrips env config layout before after) ↔
      FormatFits config := by
  have validates : formatValidateConfig config = true := by
    cases found : formatValidateConfig config with
    | true => rfl
    | false =>
      rw [formatFat32, reject_bind_pos _ found] at accepted
      cases accepted
  have valid := formatValidateConfig_validated validates
  obtain ⟨layout, solved⟩ : ∃ layout, formatResolveLayout config = some layout := by
    cases found : formatResolveLayout config with
    | some layout => exact ⟨layout, rfl⟩
    | none =>
      rw [formatFat32, reject_bind_neg _ (by rw [validates]; decide)] at accepted
      simp only [found] at accepted
      cases accepted
  obtain ⟨resolved, root⟩ := formatResolveLayout_resolved solved
  constructor
  · rintro ⟨other, solved', trip⟩
    rw [solved] at solved'
    cases solved'
    exact resolved.fits_of_exact valid trip.exact'
  · intro fits
    have exact' := resolved.exact_of_fits valid fits
    have few := exact'.numbers
    rw [mostClusters] at few
    have known : config.rootDirCluster.toNat < 2 + layout.totalClusters := by
      rwa [word32_of_lt (by simp only [fat32ClusterMin]; omega)] at root
    have laid : Laid config layout before.requests (fun _ => True) (fun _ => True) after :=
      formatFat32_laid valid exact' known validates solved before rfl _ _ accepted
    have served : env.fails (.read 0 :: after.requests) = none := by
      apply device
      have room := resolved.heap_lt
      exact Nat.lt_of_le_of_lt (Nat.zero_le _) room
    exact ⟨layout, solved,
      ⟨exact', laid.writes, mount_formatted valid resolved exact' known laid.boot served,
        formatted_root valid exact' known fun k row => laid.root k row trivial,
        fun cluster low high => formatted_links valid exact' known (fun s row => laid.table s row trivial) low high⟩⟩

/-- On a disk of ten sectors the hypotheses hold. -/
theorem format_round_trip_sample :
    ∃ after layout, formatFat32 (idealEnv 0) (formatConfigDefault 10) blankIo = some (.ok (), after) ∧
      RoundTrips (idealEnv 0) (formatConfigDefault 10) layout blankIo after := by
  obtain ⟨layout, _, trip⟩ := (format_round_trip (idealEnv 0) (formatConfigDefault 10) blankIo _
    (fun _ _ _ => rfl) rfl).mpr (by decide)
  exact ⟨_, layout, rfl, trip⟩

/-- With 2^30 + 1 sectors the bytes of the table wrap to four: one sector is taken to be enough
for the links of 2^30 - 1 clusters. -/
theorem format_wraps :
    ∃ (env : Env) (config : FormatConfig) (before after : Io),
      env.Serves config.sectorCount.toNat ∧ formatFat32 env config before = some (.ok (), after) ∧
      ¬∃ layout, formatResolveLayout config = some layout ∧ RoundTrips env config layout before after := by
  refine ⟨idealEnv 0, formatConfigDefault 1073741825, blankIo, _, fun _ _ _ => rfl, rfl, ?_⟩
  rintro ⟨layout, solved, trip⟩
  have found : formatResolveLayout (formatConfigDefault 1073741825) = some ⟨1, 2, 1073741823⟩ := by decide
  rw [found] at solved
  cases solved
  exact absurd trip.exact'.covered (by decide)

end RoundTrip
end XSDK.Fs
