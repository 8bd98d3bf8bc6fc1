import XSDK.Fs.Path

/-! Directories: making and deleting one, and reading one through a handle. -/
namespace XSDK.Fs

open Library Prog

variable (env : Env) (ctx : Context)

/-- The characters of a stored name, with a dot before the extension. -/
def directorySfnToName (sfn : Sfn) : List UInt8 :=
  let name := ((List.ofFn sfn).take 8).rdropWhile fun c => c == 0x20
  let extension := ((List.ofFn sfn).drop 8).rdropWhile fun c => c == 0x20
  if extension = [] then name else name ++ pathDot :: extension

structure PublicEntry where
  name : List UInt8
  attributes : Nat
  firstCluster : Nat
  size : Nat
  isDirectory : Bool
  deriving DecidableEq, Repr

def directoryPublicEntry (entry : DirectoryEntry) : PublicEntry :=
  ⟨directorySfnToName entry.name, entry.attributes, entry.firstCluster, entry.fileSize, entry.isDirectory⟩

def dotName (dots : Nat) : Sfn := fun i => if i.val < dots then pathDot else 0x20

def directoryEntryFor (name : Sfn) (cluster : Nat) : DirectoryEntry :=
  ((DirectoryEntry.zero.setName name).setAttributes fat32AttrDirectory).setFirstCluster cluster

def directoryWriteDotEntries (newCluster parentCluster : Nat) : IoM Unit := do
  directoryWriteEntry env ctx newCluster 0 (directoryEntryFor (dotName 1) newCluster)
  directoryWriteEntry env ctx newCluster 1
    (((directoryEntryFor (dotName 1) newCluster).setName (dotName 2)).setFirstCluster parentCluster)

def emptyVisit : Visit Bool := fun _ _ entry =>
  if entry.isEnd = true then some (.ok true)
  else if entry.isFree = true ∨ entry.isLfn = true ∨ entry.isDot = true then none
  else some (.ok false)

def directoryIsEmpty (start : Nat) : IoM Bool := do
  reject (entriesPerCluster ctx = 0) .invalidState
  walkDirectory env ctx emptyVisit (fun _ => return true) env.fuel start

variable (path : PathString)

def directoryCreateBody : IoM Unit := do
  let parent ← pathResolveParent env ctx path
  directoryRequireAbsent env ctx parent.1 parent.2
  let cluster ← fat32AllocateCluster env ctx
  onError (zeroNewCluster env ctx cluster) (fat32ReleaseChain env ctx cluster)
  onError (directoryWriteDotEntries env ctx cluster parent.1) (fat32ReleaseChain env ctx cluster)
  let slot ← onError (directoryFindFreeEntry env ctx parent.1) (fat32ReleaseChain env ctx cluster)
  directoryWriteEntry env ctx slot.1 slot.2 (directoryEntryFor parent.2 cluster)

def directoryCreate : IoM Unit := do
  reject (ctx.isMounted = false) .notMounted
  withCache (directoryCreateBody env ctx path)

def directoryDeleteBody : IoM Unit := do
  let found ← pathWalk env ctx path
  reject (found.entry.isDirectory = false) .notDirectory
  let empty ← directoryIsEmpty env ctx found.entry.firstCluster
  reject (empty = false) .notEmpty
  fat32ReleaseChain env ctx found.entry.firstCluster
  directoryWriteEntry env ctx found.cluster found.index found.entry.setFree

def directoryDelete : IoM Unit := do
  reject (ctx.isMounted = false) .notMounted
  withCache (directoryDeleteBody env ctx path)

def directoryStart : IoM Nat :=
  if pathIsRoot path = true then return ctx.rootDirCluster
  else do
    let found ← pathWalk env ctx path
    reject (found.entry.isDirectory = false) .notDirectory
    return found.entry.firstCluster

def directoryOpen : IoM Unit := do
  reject (ctx.isMounted = false) .notMounted
  updateDirectory fun _ => Directory.zero
  cacheInit
  let start ← directoryStart env ctx path
  reject (inRange ctx start = false) .corrupt
  updateDirectory fun _ => ⟨start, start, 0, true, false⟩

def directoryAdvanceCluster : IoM Unit := do
  let directory ← read Io.directory
  let next ← fat32ReadEntry env ctx directory.currentCluster
  if isEoc next = true then updateDirectory fun directory => { directory with isEnd := true }
  else
    reject (inRange ctx next = false) .corrupt
    updateDirectory fun directory => { directory with currentCluster := next, currentIndex := 0 }

/-- A round reads an entry or moves to the next cluster. -/
def directoryReadFrom : Nat → IoM (Option PublicEntry)
  | 0 => hang
  | fuel + 1 => do
    let directory ← read Io.directory
    if directory.isEnd = true then return none
    else if entriesPerCluster ctx ≤ directory.currentIndex then
      directoryAdvanceCluster env ctx
      directoryReadFrom fuel
    else
      let entry ← directoryReadEntry env ctx directory.currentCluster directory.currentIndex
      updateDirectory fun directory => { directory with currentIndex := word32 (directory.currentIndex + 1) }
      if entry.isEnd = true then
        updateDirectory fun directory => { directory with isEnd := true }
        return none
      else if entry.isFree = true ∨ entry.isLfn = true then directoryReadFrom fuel
      else return some (directoryPublicEntry entry)

def directoryRead : IoM (Option PublicEntry) := do
  let directory ← read Io.directory
  reject (directory.isOpen = false) .invalidArgument
  if directory.isEnd = true then return none
  else
    reject (entriesPerCluster ctx = 0) .invalidState
    directoryReadFrom env ctx env.fuel

def directoryRewind : IoM Unit := do
  let directory ← read Io.directory
  reject (directory.isOpen = false) .invalidArgument
  updateDirectory fun directory =>
    { directory with currentCluster := directory.startCluster, currentIndex := 0, isEnd := false }
  cacheInvalidate

def directoryClose : IoM Unit := do
  updateDirectory fun _ => Directory.zero
  cacheInvalidate

end XSDK.Fs
