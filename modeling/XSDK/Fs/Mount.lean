import Mathlib.Data.List.DropRight
import XSDK.Fs.Fat32Directory

/-! Mounting: the boot sector's parameters, their check, and the volume's summary. -/
namespace XSDK.Fs

open Library Prog

variable (env : Env) (ctx : Context)

def fat32BootSignatureOffset : Nat := 510
def fat32BootSignatureValue : Nat := 0xAA55
def fat32BytesPerSectorOffset : Nat := 11
def fat32SectorsPerClusterOffset : Nat := 13
def fat32ReservedSectorCountOffset : Nat := 14
def fat32NumberOfFatsOffset : Nat := 16
def fat32TotalSectors32Offset : Nat := 32
def fat32Size32Offset : Nat := 36
def fat32RootClusterOffset : Nat := 44

structure Bpb where
  bytesPerSector : Nat
  sectorsPerCluster : Nat
  numberOfFats : Nat
  reservedSectorCount : Nat
  totalSectors : Nat
  fatSize : Nat
  fatStartSector : Nat
  clusterHeapStart : Nat
  totalClusters : Nat
  rootDirCluster : Nat
  deriving DecidableEq, Repr

/-- The heap's first sector and what is left behind it wrap as the code's words do. -/
def bpbParse (sector : Sector) : Bpb :=
  let sectorsPerCluster := (sector fat32SectorsPerClusterOffset).toNat
  let reservedSectorCount := readLE16 sector fat32ReservedSectorCountOffset
  let numberOfFats := (sector fat32NumberOfFatsOffset).toNat
  let totalSectors := readLE32 sector fat32TotalSectors32Offset
  let fatSize := readLE32 sector fat32Size32Offset
  let clusterHeapStart := word32 (reservedSectorCount + word32 (numberOfFats * fatSize))
  { bytesPerSector := readLE16 sector fat32BytesPerSectorOffset,
    sectorsPerCluster := sectorsPerCluster,
    numberOfFats := numberOfFats,
    reservedSectorCount := reservedSectorCount,
    totalSectors := totalSectors,
    fatSize := fatSize,
    fatStartSector := reservedSectorCount,
    clusterHeapStart := clusterHeapStart,
    totalClusters :=
      if sectorsPerCluster ≠ 0 then word32 (totalSectors + 2 ^ 32 - clusterHeapStart) / sectorsPerCluster else 0,
    rootDirCluster := readLE32 sector fat32RootClusterOffset }

def bpbIsValid (bpb : Bpb) (sector : Sector) : Bool :=
  decide (readLE16 sector fat32BootSignatureOffset = fat32BootSignatureValue ∧
    bpb.bytesPerSector = sectorSize ∧
    bpb.sectorsPerCluster ≠ 0 ∧
    bpb.numberOfFats ≠ 0 ∧
    bpb.fatSize ≠ 0 ∧
    bpb.clusterHeapStart < bpb.totalSectors ∧
    bpb.totalClusters ≠ 0 ∧
    isValidCluster bpb.rootDirCluster = true ∧
    bpb.rootDirCluster - fat32ClusterMin < bpb.totalClusters)

def Bpb.context (bpb : Bpb) : Context :=
  { bytesPerSector := bpb.bytesPerSector,
    sectorsPerCluster := bpb.sectorsPerCluster,
    fatStartSector := bpb.fatStartSector,
    clusterHeapStart := bpb.clusterHeapStart,
    totalClusters := bpb.totalClusters,
    rootDirCluster := bpb.rootDirCluster,
    isMounted := true }

def mount : IoM Context := do
  let sector ← readSector env 0
  reject (bpbIsValid (bpbParse sector) sector = false) .invalidVolume
  return (bpbParse sector).context

def volumeLabelFromSfn (sfn : Sfn) : List UInt8 := (List.ofFn sfn).rdropWhile fun c => c == 0x20

def labelVisit : Visit (List UInt8) := fun _ _ entry =>
  if entry.isEnd = true then some (.ok [])
  else if entry.isFree = false ∧ entry.attributes = fat32AttrVolumeId then some (.ok (volumeLabelFromSfn entry.name))
  else none

def volumeFindLabel : IoM (List UInt8) :=
  if entriesPerCluster ctx = 0 then return []
  else walkDirectory env ctx labelVisit (fun _ => return []) env.fuel ctx.rootDirCluster

def countFreeFrom : Nat → Nat → IoM Nat
  | 0, _ => return 0
  | left + 1, cluster => do
    let value ← fat32ReadEntry env ctx cluster
    let rest ← countFreeFrom left (cluster + 1)
    return if value % fat32EntryMask = fat32FreeCluster then rest + 1 else rest

structure VolumeInfo where
  totalClusters : Nat
  freeClusters : Nat
  bytesPerSector : Nat
  sectorsPerCluster : Nat
  bytesPerCluster : Nat
  label : List UInt8
  deriving DecidableEq, Repr

def withCache {α : Type} (body : IoM α) : IoM α := do
  cacheInit
  let result ← attempt body
  cacheInvalidate
  finish result

def volumeInfoBody : IoM VolumeInfo := do
  let free ← countFreeFrom env ctx (word32 (fat32ClusterMin + ctx.totalClusters) - fat32ClusterMin) fat32ClusterMin
  let label ← volumeFindLabel env ctx
  return ⟨ctx.totalClusters, free, ctx.bytesPerSector, ctx.sectorsPerCluster,
    word32 (ctx.bytesPerSector * ctx.sectorsPerCluster), label⟩

def volumeGetInfo : IoM VolumeInfo := do
  reject (ctx.isMounted = false) .notMounted
  withCache (volumeInfoBody env ctx)

def sync : IoM Unit := do
  reject (ctx.isMounted = false) .notMounted
  driverFlush env

end XSDK.Fs

/-! Formatting: the layout of the volume, its boot sector, its tables and its root directory. -/
namespace XSDK.Fs

open Library Prog

variable (env : Env)

def volumeLabelOffset : Nat := 71
def formatMaxFatSizePasses : Nat := 8
def fat32ReservedEntryZero : Nat := 0x0FFFFFF8
def fat32ReservedEntryOne : Nat := 0x0FFFFFFF

/-- What a caller asks for; the fields are the code's words. -/
structure FormatConfig where
  bytesPerSector : UInt32
  sectorCount : UInt32
  sectorsPerCluster : UInt32
  reservedSectorCount : UInt32
  fatCount : UInt32
  fatSize : UInt32
  rootDirCluster : UInt32
  volumeId : UInt32
  volumeLabel : Sfn

structure FormatLayout where
  fatSize : Nat
  clusterHeapStart : Nat
  totalClusters : Nat
  deriving DecidableEq, Repr

def formatConfigDefault (sectorCount : UInt32) : FormatConfig :=
  { bytesPerSector := 512,
    sectorCount := sectorCount,
    sectorsPerCluster := 1,
    reservedSectorCount := 1,
    fatCount := 1,
    fatSize := 0,
    rootDirCluster := 2,
    volumeId := 0x58465331,
    volumeLabel := fun _ => 0 }

def formatDivRoundUp (value divisor : Nat) : Nat := word32 (value + divisor + 2 ^ 32 - 1) / divisor

variable (config : FormatConfig) (layout : FormatLayout)

def formatValidateConfig : Bool :=
  decide (config.bytesPerSector.toNat = sectorSize ∧
    config.sectorCount.toNat ≠ 0 ∧
    config.sectorsPerCluster.toNat ≠ 0 ∧ config.sectorsPerCluster.toNat ≤ 0xFF ∧
    config.reservedSectorCount.toNat ≠ 0 ∧ config.reservedSectorCount.toNat ≤ 0xFFFF ∧
    config.fatCount.toNat ≠ 0 ∧ config.fatCount.toNat ≤ 0xFF ∧
    isValidCluster config.rootDirCluster.toNat = true)

def formatHeapStart (fatSize : Nat) : Nat :=
  word32 (config.reservedSectorCount.toNat + word32 (config.fatCount.toNat * fatSize))

def formatTotalClusters (fatSize : Nat) : Nat :=
  (config.sectorCount.toNat - formatHeapStart config fatSize) / config.sectorsPerCluster.toNat

def formatNeededFatSize (totalClusters : Nat) : Nat :=
  formatDivRoundUp (word32 (word32 (totalClusters + fat32ClusterMin) * fat32EntrySize)) config.bytesPerSector.toNat

/-- A size that was asked for is taken or refused in the first pass; otherwise a pass whose
tables are too small or too large is followed by one with the size they need. -/
def formatResolveFrom : Nat → Nat → Option FormatLayout
  | 0, _ => none
  | left + 1, fatSize =>
    if config.sectorCount.toNat ≤ formatHeapStart config fatSize then none
    else
      let totalClusters := formatTotalClusters config fatSize
      let needed := formatNeededFatSize config totalClusters
      if totalClusters = 0 then none
      else if config.fatSize.toNat ≠ 0 ∧ fatSize < needed then none
      else if config.fatSize.toNat ≠ 0 ∨ needed = fatSize then
        some ⟨fatSize, formatHeapStart config fatSize, totalClusters⟩
      else formatResolveFrom left needed

def formatResolveLayout : Option FormatLayout :=
  match formatResolveFrom config formatMaxFatSizePasses (if config.fatSize.toNat = 0 then 1 else config.fatSize.toNat) with
  | none => none
  | some layout =>
    if word32 (fat32ClusterMin + layout.totalClusters) ≤ config.rootDirCluster.toNat then none else some layout

variable (sector : Sector)

def copyBytes (offset : Nat) (bytes : List UInt8) : Sector := fun k =>
  if offset ≤ k then (bytes[k - offset]?).getD (sector k) else sector k

def setByte (offset : Nat) (value : Nat) : Sector := Function.update sector offset (UInt8.ofNat value)

def formatLabel : List UInt8 :=
  if config.volumeLabel = fun _ => 0 then [0x58, 0x46, 0x53, 0x20, 0x20, 0x20, 0x20, 0x20, 0x20, 0x20, 0x20]
  else List.ofFn config.volumeLabel

/-- The fields up to the file system's size, in the order the code writes them. -/
def bootSectorGeometry : Sector :=
  let sector := copyBytes zeroSector 0 [0xEB, 0x58, 0x90]
  let sector := copyBytes sector 3 [0x58, 0x45, 0x53, 0x44, 0x4B, 0x20, 0x20, 0x20]
  let sector := writeLE16 sector fat32BytesPerSectorOffset config.bytesPerSector.toNat
  let sector := setByte sector fat32SectorsPerClusterOffset config.sectorsPerCluster.toNat
  let sector := writeLE16 sector fat32ReservedSectorCountOffset config.reservedSectorCount.toNat
  let sector := setByte sector fat32NumberOfFatsOffset config.fatCount.toNat
  let sector := writeLE16 sector 17 0
  let sector := writeLE16 sector 19 0
  let sector := setByte sector 21 0xF8
  let sector := writeLE16 sector 22 0
  let sector := writeLE16 sector 24 63
  let sector := writeLE16 sector 26 255
  let sector := writeLE32 sector 28 0
  let sector := writeLE32 sector fat32TotalSectors32Offset config.sectorCount.toNat
  writeLE32 sector fat32Size32Offset layout.fatSize

def formatBootSector : Sector :=
  let sector := bootSectorGeometry config layout
  let sector := writeLE16 sector 40 0
  let sector := writeLE16 sector 42 0
  let sector := writeLE32 sector fat32RootClusterOffset config.rootDirCluster.toNat
  let sector := writeLE16 sector 48 0xFFFF
  let sector := writeLE16 sector 50 0xFFFF
  let sector := setByte sector 64 0x80
  let sector := setByte sector 66 0x29
  let sector := writeLE32 sector 67 config.volumeId.toNat
  let sector := copyBytes sector volumeLabelOffset (formatLabel config)
  let sector := copyBytes sector 82 [0x46, 0x41, 0x54, 0x33, 0x32, 0x20, 0x20, 0x20]
  writeLE16 sector fat32BootSignatureOffset fat32BootSignatureValue

def formatWriteFatEntry (sectorIndex cluster value : Nat) : Sector :=
  let fatOffset := word32 (cluster * fat32EntrySize)
  if fatOffset / config.bytesPerSector.toNat = sectorIndex then
    writeLE32 sector (fatOffset % config.bytesPerSector.toNat) value
  else sector

/-- A sector of a table: the two reserved entries and the end of the root's chain. -/
def formatFatSector (sectorIndex : Nat) : Sector :=
  let sector := formatWriteFatEntry config zeroSector sectorIndex 0 fat32ReservedEntryZero
  let sector := formatWriteFatEntry config sector sectorIndex 1 fat32ReservedEntryOne
  formatWriteFatEntry config sector sectorIndex config.rootDirCluster.toNat fat32EocMin

def formatWriteFatTables : IoM Unit :=
  forEach (fun fatIndex =>
    forEach (fun fatSector =>
      writeSector env (word32 (config.reservedSectorCount.toNat + fatIndex * layout.fatSize + fatSector))
        (formatFatSector config fatSector)) layout.fatSize 0) config.fatCount.toNat 0

def formatWriteRootDirectory : IoM Unit :=
  forEach (fun sectorIndex =>
    writeSector env
      (word32 (layout.clusterHeapStart +
        (config.rootDirCluster.toNat - fat32ClusterMin) * config.sectorsPerCluster.toNat + sectorIndex)) zeroSector)
    config.sectorsPerCluster.toNat 0

def formatFat32 : IoM Unit := do
  reject (formatValidateConfig config = false) .invalidArgument
  match formatResolveLayout config with
  | none => fail .invalidArgument
  | some layout =>
    driverInit env
    writeSector env 0 (formatBootSector config layout)
    formatWriteFatTables env config layout
    formatWriteRootDirectory env config layout
    driverFlush env

end XSDK.Fs
