import XSDK.Fs.Path

/-! Files: a handle's cursor over its clusters, and the calls on the handle. -/
namespace XSDK.Fs

open Library Prog

variable (env : Env) (ctx : Context)

def fileClusterSize : Nat := word32 (ctx.bytesPerSector * ctx.sectorsPerCluster)

def fileRequiredClusterCount (size clusterSize : Nat) : Nat :=
  if size = 0 ∨ clusterSize = 0 then 0 else word32 ((size - 1) / clusterSize + 1)

variable (target : Nat)

/-- A target before the cursor is reached from the start. -/
def fileRewindBefore : IoM Unit :=
  updateFile fun file =>
    if target < file.currentClusterIndex then
      { file with currentCluster := file.startCluster, currentClusterIndex := 0 }
    else file

/-- So many links are followed. The index of the cursor is set after the last one. -/
def fileFollow : Nat → IoM Unit
  | 0 => pure ()
  | left + 1 => do
    let file ← read Io.file
    let next ← fat32ReadEntry env ctx file.currentCluster
    reject (isEoc next = true) .corrupt
    updateFile fun file => { file with currentCluster := next }
    fileFollow left

def fileMoveToClusterIndex : IoM Unit := do
  fileRewindBefore target
  let file ← read Io.file
  fileFollow env ctx (target - file.currentClusterIndex)
  updateFile fun file => { file with currentClusterIndex := target }

def fileReleaseAll : IoM Unit := do
  let file ← read Io.file
  onlyIf (isValidCluster file.startCluster = true) (fat32ReleaseChain env ctx file.startCluster)
  updateFile fun file => { file with startCluster := 0, currentCluster := 0, currentClusterIndex := 0 }

def fileReleaseBehind : IoM Unit := do
  fileMoveToClusterIndex env ctx target
  let retained ← read fun io => io.file.currentCluster
  let released ← fat32ReadEntry env ctx retained
  onlyIf (isEoc released = false) do
    fat32WriteEntry env ctx retained fat32EocMin
    cacheWrite env
    fat32ReleaseChain env ctx released
  updateFile fun file => { file with currentCluster := retained, currentClusterIndex := target }

def fileShrinkToSize (size : Nat) : IoM Unit := do
  reject (fileClusterSize ctx = 0) .invalidState
  let required := fileRequiredClusterCount size (fileClusterSize ctx)
  if required = 0 then fileReleaseAll env ctx else fileReleaseBehind env ctx (required - 1)
  updateFile fun file => { file with fileSize := size, position := min file.position size, isDirty := true }

def fileAllocateFirst : IoM Unit := do
  let cluster ← fat32AllocateCluster env ctx
  updateFile fun file =>
    { file with startCluster := cluster, currentCluster := cluster, currentClusterIndex := 0, isDirty := true }

def fileAllocateNext (tail : Nat) : IoM Nat := do
  let cluster ← fat32AllocateCluster env ctx
  fat32WriteEntry env ctx tail cluster
  cacheWrite env
  return cluster

/-- As `fileFollow`, with a new cluster behind the last one. -/
def fileFollowForWrite : Nat → IoM Unit
  | 0 => pure ()
  | left + 1 => do
    let file ← read Io.file
    let next ← fat32ReadEntry env ctx file.currentCluster
    let next ← if isEoc next = true then fileAllocateNext env ctx file.currentCluster else pure next
    updateFile fun file => { file with currentCluster := next }
    fileFollowForWrite left

def fileMoveToClusterIndexForWrite : IoM Unit := do
  let file ← read Io.file
  onlyIf (isValidCluster file.startCluster = false) (fileAllocateFirst env ctx)
  fileRewindBefore target
  let file ← read Io.file
  fileFollowForWrite env ctx (target - file.currentClusterIndex)
  updateFile fun file => { file with currentClusterIndex := target }

/-- The sector under the cursor is brought into the cache. -/
def fileReadSector : IoM Unit := do
  let file ← read Io.file
  let sector := word32 (clusterToSector ctx file.currentCluster +
    file.position % fileClusterSize ctx / ctx.bytesPerSector)
  touch sector
  cacheRead env sector

/-- Each round moves at least one byte, so the length bounds the rounds. A call that fails
does not say how much it had read. -/
def fileReadFrom : Nat → Nat → IoM (List UInt8)
  | 0, _ => return []
  | rounds + 1, left => do
    let file ← read Io.file
    if left = 0 ∨ file.fileSize ≤ file.position then return []
    else
      fileMoveToClusterIndex env ctx (file.position / fileClusterSize ctx)
      fileReadSector env ctx
      let io ← read id
      let offset := io.file.position % ctx.bytesPerSector
      let count := min (min (ctx.bytesPerSector - offset) left) (io.file.fileSize - io.file.position)
      updateFile fun file => { file with position := word32 (file.position + count) }
      let rest ← fileReadFrom rounds (left - count)
      return (List.range count).map (fun k => io.cache.buffer (offset + k)) ++ rest

def fileRead (length : Nat) : IoM (List UInt8) := do
  let file ← read Io.file
  reject (file.isOpen = false) .invalidArgument
  reject (fileClusterSize ctx = 0) .invalidState
  fileReadFrom env ctx length length

def File.advance (file : File) (count : Nat) : File :=
  if file.fileSize < word32 (file.position + count) then
    { file with
      position := word32 (file.position + count), fileSize := word32 (file.position + count), isDirty := true }
  else { file with position := word32 (file.position + count) }

def fileReachForWrite : IoM Unit := do
  let file ← read Io.file
  fileMoveToClusterIndexForWrite env ctx (file.position / fileClusterSize ctx)
  fileReadSector env ctx

def fileStore (bytes : List UInt8) : IoM Nat := do
  let file ← read Io.file
  let offset := file.position % ctx.bytesPerSector
  let count := min (ctx.bytesPerSector - offset) bytes.length
  updateCache fun cache =>
    { cache with
      buffer := fun k => if offset ≤ k ∧ k < offset + count then bytes.getD (k - offset) 0 else cache.buffer k,
      isDirty := true }
  updateFile fun file => file.advance count
  return count

/-- What it answers is the status and how many bytes were written, which a failure leaves as
it was before the round. -/
def fileWriteFrom : Nat → List UInt8 → Nat → IoM (Except Error Unit × Nat)
  | 0, _, written => return (.ok (), written)
  | rounds + 1, bytes, written =>
    if bytes = [] then return (.ok (), written)
    else do
      match ← attempt (fileReachForWrite env ctx) with
      | .error e => return (.error e, written)
      | .ok () =>
        let count ← fileStore ctx bytes
        fileWriteFrom rounds (bytes.drop count) (written + count)

/-- A handle that is not open leaves the caller's count as it was. -/
def fileWrite (bytes : List UInt8) (bytesWritten : Nat) : IoM (Except Error Unit × Nat) := do
  let file ← read Io.file
  if file.isOpen = false then return (.error .invalidArgument, bytesWritten)
  else if fileClusterSize ctx = 0 then return (.error .invalidState, 0)
  else fileWriteFrom env ctx bytes.length bytes 0

def fileSeek (position : Nat) : IoM Unit := do
  let file ← read Io.file
  reject (file.isOpen = false) .invalidArgument
  reject (file.fileSize < position) .outOfRange
  cacheWrite env
  cacheInvalidate
  reject (fileClusterSize ctx = 0) .invalidState
  onlyIf (position ≠ file.fileSize) (fileMoveToClusterIndex env ctx (position / fileClusterSize ctx))
  updateFile fun file => { file with position := position }

def zeroBufferSize : Nat := 32

def fileGrowFrom (size : Nat) : Nat → IoM Unit
  | 0 => pure ()
  | rounds + 1 => do
    let file ← read Io.file
    if size ≤ file.fileSize then pure ()
    else
      let count := min (size - file.fileSize) zeroBufferSize
      let (status, written) ← fileWrite env ctx (List.replicate count 0) 0
      finish status
      reject (written ≠ count) .io
      fileGrowFrom size rounds

def fileGrow (size : Nat) : IoM Unit := do
  let file ← read Io.file
  updateFile fun file => { file with position := file.fileSize }
  fileGrowFrom env ctx size (size - file.fileSize)
  fileSeek env ctx file.position

def fileTruncate (size : Nat) : IoM Unit := do
  let file ← read Io.file
  reject (file.isOpen = false) .invalidArgument
  if size = file.fileSize then pure ()
  else if size < file.fileSize then fileShrinkToSize env ctx size
  else fileGrow env ctx size

def fileTell : IoM Nat := do
  let file ← read Io.file
  reject (file.isOpen = false) .invalidArgument
  return file.position

def fileFlush : IoM Unit := do
  let file ← read Io.file
  reject (file.isOpen = false) .invalidArgument
  cacheWrite env
  onlyIf (file.isDirty = true) do
    let entry ← directoryReadEntry env ctx file.directoryCluster file.directoryIndex
    directoryWriteEntry env ctx file.directoryCluster file.directoryIndex
      ((entry.setFirstCluster file.startCluster).setFileSize file.fileSize)
    updateFile fun file => { file with isDirty := false }

variable (path : PathString)

def fileOpen : IoM Unit := do
  reject (ctx.isMounted = false) .notMounted
  updateFile fun _ => File.zero
  cacheInit
  let found ← pathWalk env ctx path
  reject (found.entry.isDirectory = true) .notFile
  updateFile fun _ =>
    { startCluster := found.entry.firstCluster, currentCluster := found.entry.firstCluster, currentClusterIndex := 0,
      fileSize := found.entry.fileSize, position := 0, directoryCluster := found.cluster, directoryIndex := found.index,
      isOpen := true, isDirty := false }
  onlyIf (0 < found.entry.fileSize ∧ isValidCluster found.entry.firstCluster = false) do
    updateFile fun file => { file with isOpen := false }
    fail .corrupt

def fileCreate : IoM Unit := do
  reject (ctx.isMounted = false) .notMounted
  updateFile fun _ => File.zero
  cacheInit
  let parent ← pathResolveParent env ctx path
  let slot ← directoryCreateFileEntry env ctx parent.1 parent.2
  updateFile fun _ =>
    { File.zero with directoryCluster := slot.1, directoryIndex := slot.2, isOpen := true }

def fileDelete : IoM Unit := do
  reject (ctx.isMounted = false) .notMounted
  cacheInit
  let found ← pathWalk env ctx path
  reject (found.entry.isDirectory = true) .notFile
  directoryWriteEntry env ctx found.cluster found.index found.entry.setFree
  onlyIf (isValidCluster found.entry.firstCluster = true) (fat32ReleaseChain env ctx found.entry.firstCluster)

def fileClose : IoM Unit := do
  let file ← read Io.file
  onlyIf (file.isOpen = true) (fileFlush env ctx)
  updateFile fun _ => File.zero
  cacheInvalidate

end XSDK.Fs
