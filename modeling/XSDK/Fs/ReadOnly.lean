import XSDK.Fs.Directory
import XSDK.Fs.File

/-! The calls that only look at a volume, through any number of handles. -/
namespace XSDK.Fs

open Library Prog
open Function (update)

/-- A mounted volume and the handles on it, each with a cache of its own. -/
structure Volume where
  disk : Nat → Sector
  requests : List Request
  touched : List Nat
  files : Nat → File × Cache
  directories : Nat → Directory × Cache

namespace Volume

def fresh (disk : Nat → Sector) : Volume := ⟨disk, [], [], fun _ => (.zero, .zero), fun _ => (.zero, .zero)⟩

def io (v : Volume) (cache : Cache) (file : File) (directory : Directory) : Io :=
  ⟨v.disk, cache, file, directory, v.requests, v.touched⟩

def after (v : Volume) (io : Io) : Volume := { v with disk := io.disk, requests := io.requests, touched := io.touched }

end Volume

section Calls

variable {α : Type} (k : Nat) (m : IoM α)

/-- A call with a cache for itself. -/
def onVolume : Prog Volume Error α := zoom (fun v => v.io .zero .zero .zero) (fun io v => v.after io) m

def onFile : Prog Volume Error α :=
  zoom (fun v => v.io (v.files k).2 (v.files k).1 .zero)
    (fun io v => { v.after io with files := update v.files k (io.file, io.cache) }) m

def onDirectory : Prog Volume Error α :=
  zoom (fun v => v.io (v.directories k).2 .zero (v.directories k).1)
    (fun io v => { v.after io with directories := update v.directories k (io.directory, io.cache) }) m

end Calls

inductive Query
  | pathStat (path : PathString)
  | pathExists (path : PathString)
  | volumeGetInfo
  | sync
  | fileOpen (k : Nat) (path : PathString)
  | fileRead (k length : Nat)
  | fileSeek (k position : Nat)
  | fileTell (k : Nat)
  | fileFlush (k : Nat)
  | fileClose (k : Nat)
  | directoryOpen (k : Nat) (path : PathString)
  | directoryRead (k : Nat)
  | directoryRewind (k : Nat)
  | directoryClose (k : Nat)

section Session

variable (env : Env) (ctx : Context)

/-- The caller goes on whatever a call returns. -/
def query : Query → Prog Volume Error Unit
  | .pathStat path => ignore (onVolume (pathStat env ctx path))
  | .pathExists path => ignore (onVolume (pathExists env ctx path))
  | .volumeGetInfo => ignore (onVolume (volumeGetInfo env ctx))
  | .sync => ignore (onVolume (sync env ctx))
  | .fileOpen k path => ignore (onFile k (fileOpen env ctx path))
  | .fileRead k length => ignore (onFile k (fileRead env ctx length))
  | .fileSeek k position => ignore (onFile k (fileSeek env ctx position))
  | .fileTell k => ignore (onFile k fileTell)
  | .fileFlush k => ignore (onFile k (fileFlush env ctx))
  | .fileClose k => ignore (onFile k (fileClose env ctx))
  | .directoryOpen k path => ignore (onDirectory k (directoryOpen env ctx path))
  | .directoryRead k => ignore (onDirectory k (directoryRead env ctx))
  | .directoryRewind k => ignore (onDirectory k directoryRewind)
  | .directoryClose k => ignore (onDirectory k directoryClose)

def queries : List Query → Prog Volume Error Unit
  | [] => pure ()
  | q :: rest => query env ctx q >>= fun _ => queries rest

def readSession (calls : List Query) : Prog Volume Error Unit := do
  let ctx ← onVolume (mount env)
  queries env ctx calls

end Session

variable {env : Env} {ctx : Context} {disk : Nat → Sector}

/-- What looking at a volume needs of an invariant. -/
structure Looks (env : Env) (I : Io → Prop) : Prop where
  cacheRead : ∀ sector, Keeps I (cacheRead env sector)
  touch : ∀ sector, Keeps I (touch sector)

namespace Looks

variable {I : Io → Prop} {α : Type} (looks : Looks env I)
include looks

theorem link (cluster : Nat) : Keeps I (fat32ReadEntry env ctx cluster) :=
  .bind .reject fun _ => .bind (looks.cacheRead _) fun _ => .bind .read fun _ => .pure

theorem entry (cluster index : Nat) : Keeps I (directoryReadEntry env ctx cluster index) := by
  refine .bind (.bind .reject fun _ => .bind .reject fun _ => .bind .reject fun _ => .bind .reject fun _ => .pure) fun location => ?_
  exact .bind (looks.touch _) fun _ => .bind (looks.cacheRead _) fun _ => .bind .read fun _ => .pure

theorem scan (visit : Visit α) (cluster left index : Nat) : Keeps I (scanCluster env ctx visit cluster left index) := by
  induction left generalizing index with
  | zero => exact .pure
  | succ left ih =>
    refine .bind (looks.entry cluster index) fun entry => ?_
    split
    · exact ih (index + 1)
    · exact .bind .finish fun _ => .pure

theorem walk {visit : Visit α} {atEnd : Nat → IoM α} (close : ∀ last, Keeps I (atEnd last)) (fuel cluster : Nat) :
    Keeps I (walkDirectory env ctx visit atEnd fuel cluster) := by
  induction fuel generalizing cluster with
  | zero => exact .hang
  | succ fuel ih =>
    refine .ite (fun _ => .bind (looks.scan _ _ _ _) fun found => ?_) fun _ => .fail
    split
    · exact .pure
    · exact .bind (looks.link _) fun next => .ite (fun _ => close _) fun _ => ih next

theorem path (path : PathString) : Keeps I (pathWalk env ctx path) := by
  refine .bind .reject fun _ => .bind .reject fun _ => ?_
  generalize path.length = left, skipSeparators path = cursor, ctx.rootDirCluster = cluster
  induction left generalizing cursor cluster with
  | zero => exact .fail
  | succ left ih =>
    rw [pathWalkFrom]
    split
    · exact .fail
    · refine .bind (.bind .reject fun _ => .bind .reject fun _ => looks.walk (fun _ => .fail) _ _) fun found => ?_
      refine .ite (fun _ => .pure) fun _ => ?_
      exact .bind (.bind .reject fun _ => .bind .reject fun _ => .pure) fun next => ih _ next

theorem start (path : PathString) : Keeps I (directoryStart env ctx path) :=
  .ite (fun _ => .pure) fun _ => .bind (looks.path path) fun _ => .bind .reject fun _ => .pure

end Looks

/-- Nothing waits to be written, and no write was asked for. -/
structure Clean (disk : Nat → Sector) (io : Io) : Prop where
  cache : io.cache.isDirty = false
  file : io.file.isDirty = false
  same : io.disk = disk
  asked : ∀ sector, .write sector ∉ io.requests

namespace Clean

theorem withCache {f : Cache → Cache} (h : ∀ c, (f c).isDirty = false) : Keeps (Clean disk) (updateCache f) :=
  .modify fun _ clean => ⟨h _, clean.file, clean.same, clean.asked⟩

theorem withFile {f : File → File} (h : ∀ x, x.isDirty = false → (f x).isDirty = false) :
    Keeps (Clean disk) (updateFile f) :=
  .modify fun _ clean => ⟨clean.cache, h _ clean.file, clean.same, clean.asked⟩

theorem withDirectory {f : Directory → Directory} : Keeps (Clean disk) (updateDirectory f) :=
  .modify fun _ clean => ⟨clean.cache, clean.file, clean.same, clean.asked⟩

theorem request {call : Request} (reads : ∀ sector, call ≠ .write sector) : Keeps (Clean disk) (request env call) := by
  refine .bind (.modify fun io clean => ⟨clean.cache, clean.file, clean.same, fun sector asked => ?_⟩) fun _ =>
    .bind .read fun _ => ?_
  · rcases List.mem_cons.mp asked with this | earlier
    · exact reads sector this.symm
    · exact clean.asked sector earlier
  · split
    · exact .fail
    · exact .pure

theorem idle {io : Io} (clean : Clean disk io) : cacheWrite env io = some (.ok (), io) := by
  rw [cacheWrite, bind_ok _ (read_run _), if_pos (.inr clean.cache), pure_run]

theorem cacheWrite : Keeps (Clean disk) (cacheWrite env) := by
  intro io clean r io' run
  rw [clean.idle] at run
  cases run
  exact clean

theorem readSector (sector : Nat) : Keeps (Clean disk) (readSector env sector) :=
  .bind (request fun _ => Request.noConfusion) fun _ => .read

theorem looks : Looks env (Clean disk) where
  cacheRead sector :=
    .bind .read fun _ => .ite (fun _ => .pure) fun _ => .bind (.onlyIf cacheWrite) fun _ =>
      .bind (readSector sector) fun _ => withCache fun _ => rfl
  touch _ := .modify fun _ clean => ⟨clean.cache, clean.file, clean.same, clean.asked⟩

theorem ownCache {α : Type} {body : IoM α} (h : Keeps (Clean disk) body) : Keeps (Clean disk) (Fs.withCache body) :=
  .bind (withCache fun _ => rfl) fun _ => .bind h.attempt fun _ => .bind (withCache fun _ => rfl) fun _ => .finish

theorem pathExists (path : PathString) : Keeps (Clean disk) (pathExists env ctx path) := by
  refine .bind .reject fun _ => .ite (fun _ => .pure) fun _ => .bind (withCache fun _ => rfl) fun _ => ?_
  refine .bind (looks.path path).attempt fun result => .bind (withCache fun _ => rfl) fun _ => ?_
  split
  · exact .pure
  · exact .pure
  · exact .fail

theorem volumeGetInfo : Keeps (Clean disk) (volumeGetInfo env ctx) := by
  have free (left cluster : Nat) : Keeps (Clean disk) (countFreeFrom env ctx left cluster) := by
    induction left generalizing cluster with
    | zero => exact .pure
    | succ left ih => exact .bind (looks.link _) fun _ => .bind (ih _) fun _ => .pure
  exact .bind .reject fun _ => ownCache <| .bind (free _ _) fun _ =>
    .bind (.ite (fun _ => .pure) fun _ => looks.walk (fun _ => .pure) _ _) fun _ => .pure

theorem fileMoveToClusterIndex (target : Nat) : Keeps (Clean disk) (fileMoveToClusterIndex env ctx target) := by
  have follow (left : Nat) : Keeps (Clean disk) (fileFollow env ctx left) := by
    induction left with
    | zero => exact .pure
    | succ left ih =>
      exact .bind .read fun _ => .bind (looks.link _) fun _ => .bind .reject fun _ => .bind (withFile fun _ h => h) fun _ => ih
  refine .bind (withFile fun file h => ?_) fun _ => .bind .read fun _ => .bind (follow _) fun _ => withFile fun _ h => h
  split
  · exact h
  · exact h

theorem fileRead (length : Nat) : Keeps (Clean disk) (fileRead env ctx length) := by
  have rounds (n left : Nat) : Keeps (Clean disk) (fileReadFrom env ctx n left) := by
    induction n generalizing left with
    | zero => exact .pure
    | succ n ih =>
      refine .bind .read fun _ => .ite (fun _ => .pure) fun _ => .bind (fileMoveToClusterIndex _) fun _ => ?_
      refine .bind (.bind .read fun _ => .bind ((looks : Looks env _).touch _) fun _ => looks.cacheRead _) fun _ => ?_
      exact .bind .read fun _ => .bind (withFile fun _ h => h) fun _ => .bind (ih _) fun _ => .pure
  exact .bind .read fun _ => .bind .reject fun _ => .bind .reject fun _ => rounds _ _

theorem fileSeek (position : Nat) : Keeps (Clean disk) (fileSeek env ctx position) :=
  .bind .read fun _ => .bind .reject fun _ => .bind .reject fun _ => .bind cacheWrite fun _ =>
    .bind (withCache fun _ => rfl) fun _ => .bind .reject fun _ => .bind (.onlyIf (fileMoveToClusterIndex _)) fun _ =>
      withFile fun _ h => h

theorem fileOpen (path : PathString) : Keeps (Clean disk) (fileOpen env ctx path) :=
  .bind .reject fun _ => .bind (withFile fun _ _ => rfl) fun _ => .bind (withCache fun _ => rfl) fun _ =>
    .bind (looks.path path) fun _ => .bind .reject fun _ => .bind (withFile fun _ _ => rfl) fun _ =>
      .onlyIf <| .bind (withFile fun _ h => h) fun _ => .fail

theorem fileFlush : Keeps (Clean disk) (fileFlush env ctx) := by
  intro io clean r io' run
  rw [Fs.fileFlush, bind_ok _ (read_run _)] at run
  by_cases closed : io.file.isOpen = false
  · rw [reject_bind_pos _ closed] at run
    cases run
    exact clean
  · rw [reject_bind_neg _ closed, bind_ok _ clean.idle, onlyIf, if_neg (by rw [clean.file]; decide)] at run
    cases run
    exact clean

theorem directoryRead : Keeps (Clean disk) (directoryRead env ctx) := by
  refine .bind .read fun _ => .bind .reject fun _ => .ite (fun _ => .pure) fun _ => .bind .reject fun _ => ?_
  generalize env.fuel = fuel
  induction fuel with
  | zero => exact .hang
  | succ fuel ih =>
    refine .bind .read fun _ => .ite (fun _ => .pure) fun _ => .ite (fun _ => ?_) fun _ => ?_
    · refine .bind (.bind .read fun _ => .bind (looks.link _) fun _ => ?_) fun _ => ih
      exact .ite (fun _ => withDirectory) fun _ => .bind .reject fun _ => withDirectory
    · refine .bind (looks.entry _ _) fun _ => .bind withDirectory fun _ => ?_
      exact .ite (fun _ => .bind withDirectory fun _ => .pure) fun _ => .ite (fun _ => ih) fun _ => .pure

end Clean

/-- A reader's volume. -/
structure Volume.Clean (disk : Nat → Sector) (v : Volume) : Prop where
  files : ∀ k, (v.files k).1.isDirty = false ∧ (v.files k).2.isDirty = false
  directories : ∀ k, (v.directories k).2.isDirty = false
  same : v.disk = disk
  asked : ∀ sector, .write sector ∉ v.requests

section Handles

variable {α : Type} {m : IoM α} {k : Nat} (h : Keeps (Clean disk) m)
include h

theorem onVolume_clean : Keeps (Volume.Clean disk) (onVolume m) :=
  .zoom (fun _ clean => ⟨rfl, rfl, clean.same, clean.asked⟩)
    (fun _ _ clean after => ⟨clean.files, clean.directories, after.same, after.asked⟩) h

theorem onFile_clean : Keeps (Volume.Clean disk) (onFile k m) := by
  refine .zoom (fun _ clean => ⟨(clean.files k).2, (clean.files k).1, clean.same, clean.asked⟩)
    (fun _ _ clean after => ⟨fun j => ?_, clean.directories, after.same, after.asked⟩) h
  by_cases same : j = k
  · subst same
    simp [after.cache, after.file]
  · simpa [same] using clean.files j

theorem onDirectory_clean : Keeps (Volume.Clean disk) (onDirectory k m) := by
  refine .zoom (fun _ clean => ⟨clean.directories k, rfl, clean.same, clean.asked⟩)
    (fun _ _ clean after => ⟨clean.files, fun j => ?_, after.same, after.asked⟩) h
  by_cases same : j = k
  · subst same
    simp [after.cache]
  · simpa [same] using clean.directories j

end Handles

theorem query_clean (q : Query) : Keeps (Volume.Clean disk) (query env ctx q) := by
  cases q with
  | pathStat path =>
    exact (onVolume_clean <| .bind .reject fun _ => .ite (fun _ => .pure) fun _ =>
      .bind (Clean.ownCache (Clean.looks.path path)) fun _ => .pure).ignore
  | pathExists path => exact (onVolume_clean (Clean.pathExists path)).ignore
  | volumeGetInfo => exact (onVolume_clean Clean.volumeGetInfo).ignore
  | sync => exact (onVolume_clean <| .bind .reject fun _ => Clean.request fun _ => Request.noConfusion).ignore
  | fileOpen k path => exact (onFile_clean (Clean.fileOpen path)).ignore
  | fileRead k length => exact (onFile_clean (Clean.fileRead length)).ignore
  | fileSeek k position => exact (onFile_clean (Clean.fileSeek position)).ignore
  | fileTell k => exact (onFile_clean <| .bind .read fun _ => .bind .reject fun _ => .pure).ignore
  | fileFlush k => exact (onFile_clean Clean.fileFlush).ignore
  | fileClose k =>
    exact (onFile_clean <| .bind .read fun _ => .bind (.onlyIf Clean.fileFlush) fun _ =>
      .bind (Clean.withFile fun _ _ => rfl) fun _ => Clean.withCache fun _ => rfl).ignore
  | directoryOpen k path =>
    exact (onDirectory_clean <| .bind .reject fun _ => .bind Clean.withDirectory fun _ =>
      .bind (Clean.withCache fun _ => rfl) fun _ => .bind (Clean.looks.start path) fun _ => .bind .reject fun _ =>
        Clean.withDirectory).ignore
  | directoryRead k => exact (onDirectory_clean Clean.directoryRead).ignore
  | directoryRewind k =>
    exact (onDirectory_clean <| .bind .read fun _ => .bind .reject fun _ => .bind Clean.withDirectory fun _ =>
      Clean.withCache fun _ => rfl).ignore
  | directoryClose k =>
    exact (onDirectory_clean <| .bind Clean.withDirectory fun _ => Clean.withCache fun _ => rfl).ignore

theorem queries_clean (calls : List Query) : Keeps (Volume.Clean disk) (queries env ctx calls) := by
  induction calls with
  | nil => exact .pure
  | cons q rest ih => exact .bind (query_clean q) fun _ => ih

/-- Whatever is on the disk and however the driver fails. -/
theorem reading_writes_nothing (env : Env) (disk : Nat → Sector) (calls : List Query) :
    Triple (· = Volume.fresh disk) (readSession env calls)
      (fun _ v => v.disk = disk ∧ ∀ sector, .write sector ∉ v.requests)
      fun _ v => v.disk = disk ∧ ∀ sector, .write sector ∉ v.requests := by
  have session : Keeps (Volume.Clean disk) (readSession env calls) :=
    .bind (onVolume_clean <| .bind (Clean.readSector 0) fun _ => .bind .reject fun _ => .pure) fun _ =>
      queries_clean calls
  refine Triple.weaken session ?_ (fun _ _ clean => ⟨clean.same, clean.asked⟩) fun _ _ clean => ⟨clean.same, clean.asked⟩
  rintro _ rfl
  exact ⟨fun _ => ⟨rfl, rfl⟩, fun _ => rfl, rfl, fun _ asked => by cases asked⟩

end XSDK.Fs
