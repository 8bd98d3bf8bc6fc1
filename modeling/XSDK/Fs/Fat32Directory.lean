import Mathlib.Data.Fintype.Pi
import XSDK.Fs.Fat32

/-! Directory entries on the disk: reading and writing one, finding a name, finding room. -/
namespace XSDK.Fs

open Library Prog

variable (env : Env) (ctx : Context)

def fat32DirectoryEntrySize : Nat := 32
def directoryEntryFree : UInt8 := 0xE5
def directoryEntryEnd : UInt8 := 0x00
def directoryNameLength : Nat := 11

/-- The 32 bytes of an entry. -/
abbrev DirectoryEntry := Nat → UInt8

/-- A name as it is stored. -/
abbrev Sfn := Fin directoryNameLength → UInt8

instance : DecidableEq Sfn := fun a b => Fintype.decidablePiFintype a b

namespace DirectoryEntry

variable (entry : DirectoryEntry)

def name : Sfn := fun i => entry i
def attributes : Nat := (entry 11).toNat
def firstCluster : Nat := readLE16 entry 20 * 65536 + readLE16 entry 26
def fileSize : Nat := readLE32 entry 28

def isEnd : Bool := decide (entry 0 = directoryEntryEnd)
def isFree : Bool := decide (entry 0 = directoryEntryFree)
def isLfn : Bool := decide (entry.attributes = fat32AttrLfn)
def isDirectory : Bool := decide (entry.attributes &&& fat32AttrDirectory ≠ 0)
def isDot : Bool := decide (entry 0 = 0x2E)

def zero : DirectoryEntry := fun _ => 0

def setName (name : Sfn) : DirectoryEntry := fun k => if h : k < directoryNameLength then name ⟨k, h⟩ else entry k
def setAttributes (attributes : Nat) : DirectoryEntry := Function.update entry 11 (UInt8.ofNat attributes)

def setFirstCluster (cluster : Nat) : DirectoryEntry := writeLE16 (writeLE16 entry 20 (cluster / 65536)) 26 cluster

def setFileSize (size : Nat) : DirectoryEntry := writeLE32 entry 28 size

def setFree : DirectoryEntry := Function.update entry 0 directoryEntryFree

end DirectoryEntry

def entriesPerCluster : Nat :=
  if ctx.bytesPerSector = 0 ∨ ctx.sectorsPerCluster = 0 then 0
  else ctx.bytesPerSector / fat32DirectoryEntrySize * ctx.sectorsPerCluster

variable (cluster index : Nat)

/-- Where an entry of a cluster is: its sector and its offset there. -/
def directoryEntryLocation : IoM (Nat × Nat) := do
  reject (inRange ctx cluster = false) .invalidArgument
  reject (ctx.bytesPerSector = 0 ∨ ctx.sectorsPerCluster = 0) .invalidState
  let entriesPerSector := ctx.bytesPerSector / fat32DirectoryEntrySize
  reject (entriesPerSector = 0) .invalidState
  reject (ctx.sectorsPerCluster ≤ index / entriesPerSector) .outOfRange
  return (word32 (clusterToSector ctx cluster + index / entriesPerSector),
    index % entriesPerSector * fat32DirectoryEntrySize)

def touch (sector : Nat) : IoM Unit := modify fun io => { io with touched := sector :: io.touched }

def directoryReadEntry : IoM DirectoryEntry := do
  let location ← directoryEntryLocation ctx cluster index
  touch location.1
  cacheRead env location.1
  let buffer ← read fun io => io.cache.buffer
  return fun k => buffer (location.2 + k)

def storeEntry (buffer : Sector) (offset : Nat) (entry : DirectoryEntry) : Sector := fun j =>
  if offset ≤ j ∧ j < offset + fat32DirectoryEntrySize then entry (j - offset) else buffer j

def directoryWriteEntry (entry : DirectoryEntry) : IoM Unit := do
  let location ← directoryEntryLocation ctx cluster index
  touch location.1
  cacheRead env location.1
  updateCache fun cache => { cache with buffer := storeEntry cache.buffer location.2 entry, isDirty := true }
  cacheWrite env

/-- What a loop over the entries of a directory does at one of them, given its cluster and
index: go on, or end the call. -/
abbrev Visit (α : Type) := Nat → Nat → DirectoryEntry → Option (Except Error α)

/-- The entries of a cluster, of which so many are left. -/
def scanCluster {α : Type} (visit : Visit α) (cluster : Nat) : Nat → Nat → IoM (Option α)
  | 0, _ => return none
  | left + 1, index => do
    let entry ← directoryReadEntry env ctx cluster index
    match visit cluster index entry with
    | none => scanCluster visit cluster left (index + 1)
    | some result =>
      let value ← finish result
      return some value

/-- The loop that the code has four times: the entries of each cluster of a chain, with what to
do at an entry and behind the last cluster. -/
def walkDirectory {α : Type} (visit : Visit α) (atEnd : Nat → IoM α) : Nat → Nat → IoM α
  | 0, _ => hang
  | fuel + 1, cluster =>
    if inRange ctx cluster = true then do
      match ← scanCluster env ctx visit cluster (entriesPerCluster ctx) 0 with
      | some value => return value
      | none =>
        let next ← fat32ReadEntry env ctx cluster
        if isEoc next = true then atEnd cluster else walkDirectory visit atEnd fuel next
    else fail .corrupt

/-- An entry and where it was found. -/
structure Found where
  entry : DirectoryEntry
  cluster : Nat
  index : Nat

def findVisit (name : Sfn) : Visit Found := fun cluster index entry =>
  if entry.isEnd = true then some (.error .notFound)
  else if entry.isFree = true ∨ entry.isLfn = true then none
  else if entry.name = name then some (.ok ⟨entry, cluster, index⟩)
  else none

def directoryFindEntry (start : Nat) (name : Sfn) : IoM Found := do
  reject (inRange ctx start = false) .invalidArgument
  reject (entriesPerCluster ctx = 0) .invalidState
  walkDirectory env ctx (findVisit name) (fun _ => fail .notFound) env.fuel start

/-- The cache's buffer is written over a sector that was not read. -/
def overwriteSector (sector : Nat) : IoM Unit := do
  touch sector
  updateCache fun cache => { cache with sector := sector, isValid := true, isDirty := true }
  cacheWrite env

/-- The code has this twice; one of the two checks the range first. -/
def zeroNewCluster (cluster : Nat) : IoM Unit := do
  updateCache fun cache => { cache with buffer := zeroSector }
  forEach (fun index => overwriteSector env (word32 (clusterToSector ctx cluster + index))) ctx.sectorsPerCluster 0

def directoryZeroCluster (cluster : Nat) : IoM Unit := do
  reject (inRange ctx cluster = false) .invalidArgument
  zeroNewCluster env ctx cluster

def directoryExtendChain (tail : Nat) : IoM (Nat × Nat) := do
  let cluster ← fat32AllocateCluster env ctx
  onError (directoryZeroCluster env ctx cluster) (fat32ReleaseChain env ctx cluster)
  onError (fat32WriteEntry env ctx tail cluster) (fat32ReleaseChain env ctx cluster)
  onError (cacheWrite env) (fat32ReleaseChain env ctx cluster)
  return (cluster, 0)

def freeVisit : Visit (Nat × Nat) := fun cluster index entry =>
  if entry.isEnd = true ∨ entry.isFree = true then some (.ok (cluster, index)) else none

def directoryFindFreeEntry (start : Nat) : IoM (Nat × Nat) := do
  reject (inRange ctx start = false) .invalidArgument
  reject (entriesPerCluster ctx = 0) .invalidState
  walkDirectory env ctx freeVisit (directoryExtendChain env ctx) env.fuel start

def newFileEntry (name : Sfn) : DirectoryEntry := (DirectoryEntry.zero.setName name).setAttributes fat32AttrArchive

def directoryCreateFileEntry (parent : Nat) (name : Sfn) : IoM (Nat × Nat) := do
  let existing ← attempt (directoryFindEntry env ctx parent name)
  match existing with
  | .ok _ => fail .alreadyExists
  | .error _ =>
    let slot ← directoryFindFreeEntry env ctx parent
    directoryWriteEntry env ctx slot.1 slot.2 (newFileEntry name)
    return slot

end XSDK.Fs
