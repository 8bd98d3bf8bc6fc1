import XSDK.Fs.View

/-! The links and the directory entries as calls read and write them. -/
namespace XSDK.Fs

open Library Prog

structure Mounted (ctx : Context) : Prop where
  mounted : ctx.isMounted = true
  bytesPerSector : ctx.bytesPerSector = sectorSize
  sectorsPerCluster : 0 < ctx.sectorsPerCluster
  clusterSize : ctx.sectorsPerCluster ≤ 0xFF

theorem Geometry.toMounted {ctx : Context} (geometry : Geometry ctx) : Mounted ctx :=
  ⟨geometry.mounted, geometry.bytesPerSector, geometry.sectorsPerCluster, geometry.clusterSize⟩

theorem mount_mounted {env : Env} {ctx : Context} {io io' : Io} (run : mount env io = some (.ok ctx, io')) :
    Mounted ctx := by
  have checked : Triple (fun _ => True) (mount env) (fun ctx _ => Mounted ctx) fun _ _ => True := by
    refine .bind (R := fun _ _ => True) (fun _ _ r _ _ => by cases r <;> trivial) fun sector => ?_
    refine .bind (R := fun _ _ => bpbIsValid (bpbParse sector) sector = true)
      (.reject (fun _ _ _ => trivial) fun _ _ valid => by simpa using valid) fun _ => ?_
    refine .pure fun _ valid => ?_
    rw [bpbIsValid, decide_eq_true_iff] at valid
    have byte := (sector fat32SectorsPerClusterOffset).toNat_lt
    exact ⟨rfl, valid.2.1, Nat.pos_of_ne_zero valid.2.2.1, Nat.le_of_lt_succ byte⟩
  exact checked io trivial _ _ run

variable {env : Env} {ctx : Context} {io : Io} {cluster index value : Nat}

def writeFat (ctx : Context) (disk : Nat → Sector) (cluster value : Nat) : Nat → Sector :=
  Function.update disk (fatSector ctx cluster)
    (writeLE32 (disk (fatSector ctx cluster)) (fatOffset ctx cluster)
      (fatWord (readLE32 (disk (fatSector ctx cluster)) (fatOffset ctx cluster)) value))

theorem fatWord_lt {old : Nat} (h : old < 2 ^ 32) : fatWord old value < 2 ^ 32 := by
  rw [fatWord, fat32EntryMask]
  omega

theorem fatWord_mod (old : Nat) : fatWord old value % fat32EntryMask = value % fat32EntryMask := by
  rw [fatWord, fat32EntryMask]
  omega

theorem fatEntry_writeFat (ctx : Context) (disk : Nat → Sector) (cluster value : Nat) :
    fatEntry ctx (writeFat ctx disk cluster value) cluster = value % fat32EntryMask := by
  rw [fatEntry, writeFat, Function.update_self, readLE32_write, word32_of_lt (fatWord_lt (readLE32_lt _ _)),
    fatWord_mod]

theorem fatEntry_writeFat_other {disk : Nat → Sector} {other : Nat} (sized : ctx.bytesPerSector = sectorSize)
    (apart : fatSector ctx other ≠ fatSector ctx cluster ∨ fatOffset ctx other ≠ fatOffset ctx cluster) :
    fatEntry ctx (writeFat ctx disk cluster value) other = fatEntry ctx disk other := by
  rw [fatEntry, writeFat]
  by_cases same : fatSector ctx other = fatSector ctx cluster
  · have offsets : fatOffset ctx other ≠ fatOffset ctx cluster := by
      rcases apart with sectors | offsets
      · exact absurd same sectors
      · exact offsets
    have aligned : fatOffset ctx other + 4 ≤ fatOffset ctx cluster ∨
        fatOffset ctx cluster + 4 ≤ fatOffset ctx other := by
      rw [fatOffset, fatOffset, sized, sectorSize, word32, word32, fat32EntrySize] at offsets ⊢
      omega
    rw [same, Function.update_self, readLE32_write_other aligned, fatEntry, same]
  · rw [Function.update_of_ne same, fatEntry]

theorem fatEntry_writeFat_cases (disk : Nat → Sector) (cluster value other : Nat)
    (sized : ctx.bytesPerSector = sectorSize) :
    fatEntry ctx (writeFat ctx disk cluster value) other = value % fat32EntryMask ∨
      fatEntry ctx (writeFat ctx disk cluster value) other = fatEntry ctx disk other := by
  by_cases same : fatSector ctx other = fatSector ctx cluster ∧ fatOffset ctx other = fatOffset ctx cluster
  · left
    rw [fatEntry, same.1, same.2]
    exact fatEntry_writeFat ctx disk cluster value
  · right
    apply fatEntry_writeFat_other sized
    by_cases sectors : fatSector ctx other = fatSector ctx cluster
    · exact .inr fun offsets => same ⟨sectors, offsets⟩
    · exact .inl sectors

section Links

variable (env) (coherent : io.Coherent) (known : inRange ctx cluster = true)
include coherent known

theorem fat32ReadEntry_acts :
    Acts env (fat32ReadEntry env ctx cluster) 2 io (.ok (fatEntry ctx io.view cluster)) (Looked io) := by
  rw [fat32ReadEntry]
  apply Acts.reject_no (by rw [known]; decide)
  refine (cacheRead_acts env coherent (fatSector ctx cluster)).bind (d := 0) ?_
  intro io' coherent' fetched
  apply Acts.read
  rw [fatEntry, ← fetched.buffer]
  exact .pure coherent' fetched.toLooked

theorem fat32WriteEntry_acts (value : Nat) :
    Acts env (fat32WriteEntry env ctx cluster value) 2 io (.ok ()) fun io' =>
      io'.view = writeFat ctx io.view cluster value ∧ io'.file = io.file ∧ io'.directory = io.directory := by
  rw [fat32WriteEntry]
  apply Acts.reject_no (by rw [known]; decide)
  refine (cacheRead_acts env coherent (fatSector ctx cluster)).bind (d := 0) ?_
  intro io' coherent' fetched
  refine ⟨.ok (), io'.store _, rfl, store_coherent _, Nat.le_refl _, .inl ⟨rfl, ?_, fetched.file, fetched.directory⟩⟩
  rw [store_view fetched.valid, writeFat, ← fetched.buffer, fetched.view, fetched.sector]

end Links

section Entries

def writeEntryAt (ctx : Context) (disk : Nat → Sector) (cluster index : Nat) (entry : DirectoryEntry) : Nat → Sector :=
  Function.update disk (entrySector ctx cluster index)
    (storeEntry (disk (entrySector ctx cluster index)) (entryOffset ctx index) entry)

variable (env) (mounted : Mounted ctx) (known : inRange ctx cluster = true) (bound : index < entriesPerCluster ctx)
include mounted known bound

omit known in
theorem Mounted.row : index / (ctx.bytesPerSector / fat32DirectoryEntrySize) < ctx.sectorsPerCluster := by
  have positive := mounted.sectorsPerCluster
  rw [entriesPerCluster, mounted.bytesPerSector, if_neg (by simp only [sectorSize]; omega)] at bound
  rw [mounted.bytesPerSector]
  simp only [sectorSize, fat32DirectoryEntrySize] at bound ⊢
  omega

theorem directoryEntryLocation_eq :
    directoryEntryLocation ctx cluster index = pure (entrySector ctx cluster index, entryOffset ctx index) := by
  have positive := mounted.sectorsPerCluster
  have row := mounted.row bound
  have sized := mounted.bytesPerSector
  rw [directoryEntryLocation, reject_bind_neg _ (by rw [known]; decide),
    reject_bind_neg _ (by rw [sized]; simp only [sectorSize]; omega)]
  dsimp only
  rw [reject_bind_neg _ (by rw [sized]; decide), reject_bind_neg _ (by omega)]
  rfl

theorem directoryReadEntry_acts (coherent : io.Coherent) :
    Acts env (directoryReadEntry env ctx cluster index) 2 io (.ok (entryAt ctx io.view cluster index)) (Looked io) := by
  rw [directoryReadEntry, directoryEntryLocation_eq mounted known bound, pure_bind]
  refine Acts.modify rfl ?_
  refine (cacheRead_acts env (by exact coherent) _).bind (d := 0) ?_
  intro io' coherent' fetched
  apply Acts.read
  have same : entryAt ctx io.view cluster index = fun k => io'.cache.buffer (entryOffset ctx index + k) := by
    rw [fetched.buffer]
    rfl
  rw [same]
  exact .pure coherent' ⟨fetched.view, fetched.file, fetched.directory⟩

end Entries
end XSDK.Fs
