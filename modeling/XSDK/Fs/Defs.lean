import Mathlib.Logic.Function.Basic
import XSDK.Library.LittleEndian
import XSDK.Library.Prog

/-! The state a call of the file system works on: the disk behind the driver, the one-sector
cache it was given, and the file and directory handles. Words are naturals below 2^32 with
explicit wrap-around, and a sector is a function of which 512 bytes are used. -/
namespace XSDK.Fs

open Library

def sectorSize : Nat := 512

def fat32EntrySize : Nat := 4
def fat32ClusterMin : Nat := 2
def fat32EocMin : Nat := 0x0FFFFFF8
def fat32FreeCluster : Nat := 0
def fat32EntryMask : Nat := 2 ^ 28

def fat32AttrVolumeId : Nat := 0x08
def fat32AttrDirectory : Nat := 0x10
def fat32AttrArchive : Nat := 0x20
def fat32AttrLfn : Nat := 0x0F

abbrev Sector := Nat → UInt8

def zeroSector : Sector := fun _ => 0

/-- Return codes other than OK; the driver has codes of its own. -/
inductive Error where
  | invalidArgument
  | invalidState
  | notMounted
  | invalidVolume
  | notFound
  | alreadyExists
  | notDirectory
  | notFile
  | notEmpty
  | outOfRange
  | diskFull
  | corrupt
  | io
  | driver (code : Nat)
  deriving DecidableEq, Repr

/-- What a mounted volume keeps of its boot sector. -/
structure Context where
  bytesPerSector : Nat
  sectorsPerCluster : Nat
  fatStartSector : Nat
  clusterHeapStart : Nat
  totalClusters : Nat
  rootDirCluster : Nat
  isMounted : Bool
  deriving DecidableEq, Repr

/-- The cache entry; a dirty one is written back before its buffer is reused. -/
structure Cache where
  isValid : Bool
  isDirty : Bool
  sector : Nat
  buffer : Sector

def Cache.zero : Cache := ⟨false, false, 0, zeroSector⟩

/-- A file handle without its cache. -/
structure File where
  startCluster : Nat
  currentCluster : Nat
  currentClusterIndex : Nat
  fileSize : Nat
  position : Nat
  directoryCluster : Nat
  directoryIndex : Nat
  isOpen : Bool
  isDirty : Bool
  deriving DecidableEq, Repr

def File.zero : File := ⟨0, 0, 0, 0, 0, 0, 0, false, false⟩

/-- A directory handle without its cache. -/
structure Directory where
  startCluster : Nat
  currentCluster : Nat
  currentIndex : Nat
  isOpen : Bool
  isEnd : Bool
  deriving DecidableEq, Repr

def Directory.zero : Directory := ⟨0, 0, 0, false, true⟩

/-- The calls of the driver. -/
inductive Request where
  | init
  | read (sector : Nat)
  | write (sector : Nat)
  | flush
  deriving DecidableEq, Repr

/-- What a call works on. The requests are the calls of the driver, the last first;
`touched` lists the sectors of file and directory contents that were asked for, and no
function reads it. -/
structure Io where
  disk : Nat → Sector
  cache : Cache
  file : File
  directory : Directory
  requests : List Request
  touched : List Nat

/-- The driver: whether a request fails, given it and those before it. A failed request
moves no bytes. The fuel is the number of rounds for which a loop over cluster links is
followed; a result that needs a bound on it says so. -/
structure Env where
  fails : List Request → Option Nat
  fuel : Nat

abbrev IoM := Prog Io Error

def updateCache (f : Cache → Cache) : IoM Unit := .modify fun io => { io with cache := f io.cache }
def updateFile (f : File → File) : IoM Unit := .modify fun io => { io with file := f io.file }
def updateDirectory (f : Directory → Directory) : IoM Unit := .modify fun io => { io with directory := f io.directory }

end XSDK.Fs
