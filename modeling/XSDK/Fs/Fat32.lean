import XSDK.Fs.Defs

/-! The driver and the one-sector cache in front of it. -/
namespace XSDK.Fs

open Library Prog

variable (env : Env)

/-- A call of the driver that ends well or with the driver's code. -/
def request (call : Request) : IoM Unit := do
  modify fun io => { io with requests := call :: io.requests }
  let requests ← read Io.requests
  match env.fails requests with
  | some code => fail (.driver code)
  | none => pure ()

def driverInit : IoM Unit := request env .init
def driverFlush : IoM Unit := request env .flush

variable (sector : Nat)

def readSector : IoM Sector := do
  request env (.read sector)
  read fun io => io.disk sector

def writeSector (buffer : Sector) : IoM Unit := do
  request env (.write sector)
  modify fun io => { io with disk := Function.update io.disk sector buffer }

def cacheInit : IoM Unit := updateCache fun _ => Cache.zero

def cacheWrite : IoM Unit := do
  let cache ← read Io.cache
  if cache.isValid = false ∨ cache.isDirty = false then pure ()
  else
    writeSector env cache.sector cache.buffer
    updateCache fun cache => { cache with isDirty := false }

def cacheRead : IoM Unit := do
  let cache ← read Io.cache
  if cache.isValid = true ∧ cache.sector = sector then pure ()
  else
    onlyIf (cache.isDirty = true) (cacheWrite env)
    let buffer ← readSector env sector
    updateCache fun _ => ⟨true, false, sector, buffer⟩

def cacheInvalidate : IoM Unit := updateCache
  fun cache => { cache with isValid := false, isDirty := false, sector := 0 }

end XSDK.Fs

/-! Cluster numbers, the entries of the file allocation table, and the chains they link. -/
namespace XSDK.Fs

open Library Prog

variable (env : Env) (ctx : Context) (cluster : Nat)

def isValidCluster : Bool := decide (2 ≤ cluster)
def isEoc : Bool := decide (fat32EocMin ≤ cluster)

def inRange : Bool :=
  decide (fat32ClusterMin ≤ cluster ∧ cluster < word32 (fat32ClusterMin + ctx.totalClusters))

/-- The subtraction and the product wrap as the code's words do. -/
def clusterToSector : Nat :=
  word32 (ctx.clusterHeapStart + (cluster + 2 ^ 32 - 2) * ctx.sectorsPerCluster)

def fatSector : Nat :=
  word32 (ctx.fatStartSector + word32 (cluster * fat32EntrySize) / ctx.bytesPerSector)

def fatOffset : Nat := word32 (cluster * fat32EntrySize) % ctx.bytesPerSector

def fat32ReadEntry : IoM Nat := do
  reject (inRange ctx cluster = false) .invalidArgument
  cacheRead env (fatSector ctx cluster)
  let buffer ← read fun io => io.cache.buffer
  return readLE32 buffer (fatOffset ctx cluster) % fat32EntryMask

def fatWord (old value : Nat) : Nat := old / fat32EntryMask * fat32EntryMask + value % fat32EntryMask

def fat32WriteEntry (cluster value : Nat) : IoM Unit := do
  reject (inRange ctx cluster = false) .invalidArgument
  cacheRead env (fatSector ctx cluster)
  updateCache fun cache =>
    { cache with
      buffer := writeLE32 cache.buffer (fatOffset ctx cluster)
        (fatWord (readLE32 cache.buffer (fatOffset ctx cluster)) value),
      isDirty := true }

/-- The first free cluster of as many as there are left to look at. -/
def findFreeFrom : Nat → Nat → IoM Nat
  | 0, _ => fail .diskFull
  | left + 1, cluster => do
    let value ← fat32ReadEntry env ctx cluster
    if value = fat32FreeCluster then return cluster else findFreeFrom left (cluster + 1)

def fat32FindFreeCluster : IoM Nat :=
  findFreeFrom env ctx (word32 (fat32ClusterMin + ctx.totalClusters) - fat32ClusterMin) fat32ClusterMin

def fat32AllocateCluster : IoM Nat := do
  let cluster ← fat32FindFreeCluster env ctx
  fat32WriteEntry env ctx cluster fat32EocMin
  cacheWrite env
  return cluster

def releaseFrom : Nat → Nat → IoM Unit
  | 0, _ => hang
  | fuel + 1, cluster =>
    if inRange ctx cluster = true then do
      let next ← fat32ReadEntry env ctx cluster
      fat32WriteEntry env ctx cluster fat32FreeCluster
      if isEoc next = true then cacheWrite env else releaseFrom fuel next
    else fail .corrupt

def fat32ReleaseChain (first : Nat) : IoM Unit := do
  reject (inRange ctx first = false) .invalidArgument
  releaseFrom env ctx env.fuel first

/-- The rest of a chain, with the first and the last cluster so far, which are zero before there
are any. What it answers is the status and the first cluster that is stored; a failure releases
the part that was built. -/
def allocateChainFrom : Nat → Nat → Nat → IoM (Except Error Unit × Nat)
  | 0, first, _ => return (.ok (), first)
  | left + 1, first, previous => do
    match ← attempt (fat32AllocateCluster env ctx) with
    | .error e =>
      onlyIf (first ≠ 0) (ignore (fat32ReleaseChain env ctx first))
      return (.error e, 0)
    | .ok current =>
      let first := if first = 0 then current else first
      if previous = 0 then allocateChainFrom left first current
      else
        match ← attempt (fat32WriteEntry env ctx previous current >>= fun _ => cacheWrite env) with
        | .error e =>
          ignore (fat32ReleaseChain env ctx first)
          return (.error e, 0)
        | .ok () => allocateChainFrom left first current

/-- A length of zero leaves the caller's variable as it was. -/
def fat32AllocateChain (length firstCluster : Nat) : IoM (Except Error Unit × Nat) :=
  if length = 0 then return (.error .invalidArgument, firstCluster)
  else allocateChainFrom env ctx length 0 0

end XSDK.Fs
