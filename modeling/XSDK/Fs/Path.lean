import XSDK.Fs.Mount

/-! Paths: splitting one into names, walking it from the root, and moving an entry. -/
namespace XSDK.Fs

open Library Prog

variable (env : Env) (ctx : Context)

/-- The characters of a path before its terminator. -/
abbrev PathString := List UInt8

def pathIsSeparator (c : UInt8) : Bool := decide (c = 0x2F ∨ c = 0x5C)

def pathAsciiToUpper (c : UInt8) : UInt8 := if 0x61 ≤ c ∧ c ≤ 0x7A then c - 0x20 else c

/-- Letters, digits and $ % ' - _ @ ~ ` ! ( ) { } ^ # &. -/
def pathIsValidSfnChar (c : UInt8) : Bool :=
  decide ((0x41 ≤ c ∧ c ≤ 0x5A) ∨ (0x30 ≤ c ∧ c ≤ 0x39) ∨
    c ∈ ([0x24, 0x25, 0x27, 0x2D, 0x5F, 0x40, 0x7E, 0x60, 0x21, 0x28, 0x29, 0x7B, 0x7D, 0x5E, 0x23, 0x26] : List UInt8))

def pathDot : UInt8 := 0x2E

structure SfnState where
  sfn : Sfn
  nameIndex : Nat
  extIndex : Nat
  inExtension : Bool

def pathSfnStep (state : SfnState) (c : UInt8) : Option SfnState :=
  let value := pathAsciiToUpper c
  if value = pathDot then
    if state.inExtension = true ∨ state.nameIndex = 0 then none else some { state with inExtension := true }
  else if pathIsValidSfnChar value = false then none
  else if state.inExtension = false then
    if h : state.nameIndex < 8 then
      some { state with
        sfn := Function.update state.sfn ⟨state.nameIndex, Nat.lt_trans h (by decide)⟩ value,
        nameIndex := state.nameIndex + 1 }
    else none
  else
    if h : state.extIndex < 3 then
      some { state with
        sfn := Function.update state.sfn ⟨8 + state.extIndex, Nat.add_lt_add_left h 8⟩ value,
        extIndex := state.extIndex + 1 }
    else none

def pathToSfn (component : PathString) : Option Sfn :=
  match component.foldlM pathSfnStep ⟨fun _ => 0x20, 0, 0, false⟩ with
  | none => none
  | some state => if component = [] ∨ state.nameIndex = 0 then none else some state.sfn

variable (path : PathString)

def skipSeparators : PathString := path.dropWhile pathIsSeparator

def pathHasMoreComponents : Bool := decide (skipSeparators path ≠ [])

def pathIsRoot : Bool := decide (path ≠ [] ∧ skipSeparators path = [])

/-- The next component, what follows it, and whether a separator did. -/
structure Component where
  sfn : Sfn
  rest : PathString
  hadTrailingSep : Bool

def pathExtractComponent (cursor : PathString) : Option Component :=
  let rest := cursor.dropWhile fun c => !pathIsSeparator c
  (pathToSfn (cursor.takeWhile fun c => !pathIsSeparator c)).map
    fun sfn => ⟨sfn, skipSeparators rest, decide (rest ≠ [])⟩

def pathEnterDirectory (entry : DirectoryEntry) : IoM Nat := do
  reject (entry.isDirectory = false) .notDirectory
  reject (isValidCluster entry.firstCluster = false) .corrupt
  return entry.firstCluster

/-- A component takes at least one character, so a path has no more components than
characters; the code after the loop is never reached. -/
def pathWalkFrom : Nat → PathString → Nat → IoM Found
  | 0, _, _ => fail .notFound
  | left + 1, cursor, cluster =>
    match pathExtractComponent cursor with
    | none => fail .invalidArgument
    | some component => do
      let found ← directoryFindEntry env ctx cluster component.sfn
      if component.rest = [] then return found
      else
        let next ← pathEnterDirectory found.entry
        pathWalkFrom left component.rest next

def pathWalk : IoM Found := do
  reject (ctx.isMounted = false) .notMounted
  reject (pathHasMoreComponents path = false) .invalidArgument
  pathWalkFrom env ctx path.length (skipSeparators path) ctx.rootDirCluster

def pathResolveFrom : Nat → PathString → Nat → IoM (Nat × Sfn)
  | 0, _, _ => fail .notFound
  | left + 1, cursor, cluster =>
    match pathExtractComponent cursor with
    | none => fail .invalidArgument
    | some component =>
      if component.rest = [] then do
        reject (component.hadTrailingSep = true) .invalidArgument
        return (cluster, component.sfn)
      else do
        let found ← directoryFindEntry env ctx cluster component.sfn
        let next ← pathEnterDirectory found.entry
        pathResolveFrom left component.rest next

def pathResolveParent : IoM (Nat × Sfn) := do
  reject (ctx.isMounted = false) .notMounted
  reject (pathHasMoreComponents path = false) .invalidArgument
  pathResolveFrom env ctx path.length (skipSeparators path) ctx.rootDirCluster

def pathRenameCrossDirectory (found : Found) (newParent : Nat) (newSfn : Sfn) : IoM Unit := do
  reject (found.entry.isDirectory = true) .invalidArgument
  let slot ← directoryFindFreeEntry env ctx newParent
  directoryWriteEntry env ctx slot.1 slot.2 (found.entry.setName newSfn)
  directoryWriteEntry env ctx found.cluster found.index found.entry.setFree

/-- The target must be absent; any other failure of the search is returned. -/
def directoryRequireAbsent (parent : Nat) (name : Sfn) : IoM Unit := do
  let existing ← attempt (directoryFindEntry env ctx parent name)
  match existing with
  | .ok _ => fail .alreadyExists
  | .error .notFound => pure ()
  | .error e => fail e

variable (oldPath newPath : PathString)

def renameBody : IoM Unit := do
  let old ← pathResolveParent env ctx oldPath
  let new ← pathResolveParent env ctx newPath
  if old.1 = new.1 ∧ old.2 = new.2 then pure ()
  else
    let found ← directoryFindEntry env ctx old.1 old.2
    directoryRequireAbsent env ctx new.1 new.2
    if old.1 = new.1 then directoryWriteEntry env ctx found.cluster found.index (found.entry.setName new.2)
    else pathRenameCrossDirectory env ctx found new.1 new.2

def pathRename : IoM Unit := do
  reject (ctx.isMounted = false) .notMounted
  withCache (renameBody env ctx oldPath newPath)

def pathExists : IoM Bool := do
  reject (ctx.isMounted = false) .notMounted
  if pathIsRoot path = true then return true
  else
    cacheInit
    let result ← attempt (pathWalk env ctx path)
    cacheInvalidate
    match result with
    | .ok _ => return true
    | .error .notFound => return false
    | .error e => fail e

structure Stat where
  size : Nat
  attributes : Nat
  firstCluster : Nat
  isDirectory : Bool

def pathStat : IoM Stat := do
  reject (ctx.isMounted = false) .notMounted
  if pathIsRoot path = true then return ⟨0, fat32AttrDirectory, ctx.rootDirCluster, true⟩
  else
    let found ← withCache (pathWalk env ctx path)
    return ⟨found.entry.fileSize, found.entry.attributes, found.entry.firstCluster, found.entry.isDirectory⟩

end XSDK.Fs
