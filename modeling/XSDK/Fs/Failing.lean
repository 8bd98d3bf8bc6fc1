import XSDK.Fs.Allocate

/-! What a call on the cache or on a link leaves behind when a request of it fails: the volume
and the handles as they were, but for the cluster that an allocation has already marked. -/
namespace XSDK.Fs

open Library Prog

variable {env : Env} {ctx : Context} {io io' : Io} {cluster value : Nat} {e : Error}

theorem cacheWrite_error (run : cacheWrite env io = some (.error e, io')) : Looked io io' := by
  by_cases quiet : io.cache.isValid = false ∨ io.cache.isDirty = false
  · rw [cacheWrite, bind_ok _ (read_run _), if_pos quiet] at run
    cases run
  · rw [cacheWrite, bind_ok _ (read_run _), if_neg quiet, writeSector, Prog.bind_assoc] at run
    obtain ⟨r, ended, outcome⟩ := request_ends env (.write io.cache.sector) io
    rcases outcome with rfl | ⟨⟨code, rfl⟩, -⟩
    · rw [bind_ok _ ended] at run
      cases run
    · rw [bind_error _ ended] at run
      cases run
      exact ⟨rfl, rfl, rfl⟩

theorem cacheRead_error {sector : Nat} (coherent : io.Coherent) (run : cacheRead env sector io = some (.error e, io')) :
    Looked io io' := by
  have fetched : ∀ io₁ : Io,
      (readSector env sector >>= fun buffer => updateCache fun _ => ⟨true, false, sector, buffer⟩) io₁ =
        some (.error e, io') → Looked io₁ io' := by
    intro io₁ run
    obtain ⟨r, ended, outcome⟩ := request_ends env (.read sector) io₁
    rw [readSector, Prog.bind_assoc] at run
    rcases outcome with rfl | ⟨⟨code, rfl⟩, -⟩
    · rw [bind_ok _ ended] at run
      cases run
    · rw [bind_error _ ended] at run
      cases run
      exact ⟨rfl, rfl, rfl⟩
  by_cases hit : io.cache.isValid = true ∧ io.cache.sector = sector
  · rw [cacheRead, bind_ok _ (read_run _), if_pos hit] at run
    cases run
  · rw [cacheRead, bind_ok _ (read_run _), if_neg hit, onlyIf] at run
    by_cases dirty : io.cache.isDirty = true
    · rw [if_pos dirty] at run
      obtain ⟨r, io₁, written, -, -, outcome⟩ := cacheWrite_acts env coherent
      cases r with
      | error e' =>
        rw [bind_error _ written] at run
        cases run
        exact cacheWrite_error written
      | ok _ =>
        rw [bind_ok _ written] at run
        rcases outcome with ⟨-, flushed⟩ | ⟨⟨code, failed⟩, -⟩
        · exact flushed.toLooked.trans (fetched io₁ run)
        · cases failed
    · rw [if_neg dirty] at run
      exact fetched io run

theorem Acts.triple {α : Type} {m : IoM α} {cost : Nat} {a : α} {after bad : Io → Prop}
    (acts : Acts env m cost io (.ok a) after) (failed : ∀ e io', m io = some (.error e, io') → bad io') :
    Triple (· = io) m (fun b io' => b = a ∧ io'.Coherent ∧ after io')
      fun _ io' => io'.Coherent ∧ bad io' ∧ ¬env.Ideal := by
  rintro _ rfl r io' run
  obtain ⟨r₁, io₁, run₁, coherent, -, outcome⟩ := acts
  rw [run] at run₁
  cases run₁
  rcases outcome with ⟨rfl, post⟩ | ⟨⟨code, rfl⟩, driver⟩
  · exact ⟨rfl, coherent, post⟩
  · exact ⟨coherent, failed _ _ run, driver⟩

section Calls

variable (env) (coherent : io.Coherent)
include coherent

theorem cacheWrite_triple :
    Triple (· = io) (cacheWrite env) (fun _ io' => io'.Coherent ∧ Looked io io')
      fun _ io' => io'.Coherent ∧ Looked io io' ∧ ¬env.Ideal :=
  ((cacheWrite_acts env coherent).triple fun _ _ => cacheWrite_error).weaken (fun _ h => h)
    (fun _ _ h => ⟨h.2.1, h.2.2.toLooked⟩) fun _ _ h => h

theorem cacheRead_triple (sector : Nat) :
    Triple (· = io) (cacheRead env sector) (fun _ io' => io'.Coherent ∧ Fetched io sector io')
      fun _ io' => io'.Coherent ∧ Looked io io' ∧ ¬env.Ideal :=
  ((cacheRead_acts env coherent sector).triple fun _ _ => cacheRead_error coherent).weaken (fun _ h => h)
    (fun _ _ h => h.2) fun _ _ h => h

variable (known : inRange ctx cluster = true)
include known

theorem fat32ReadEntry_triple :
    Triple (· = io) (fat32ReadEntry env ctx cluster)
      (fun next io' => next = fatEntry ctx io.view cluster ∧ io'.Coherent ∧ Looked io io')
      fun _ io' => io'.Coherent ∧ Looked io io' ∧ ¬env.Ideal := by
  refine (fat32ReadEntry_acts env coherent known).triple fun e io' run => ?_
  rw [fat32ReadEntry, reject_bind_neg _ (by rw [known]; decide)] at run
  obtain ⟨r, io₁, fetched, -, -, outcome⟩ := cacheRead_acts env coherent (fatSector ctx cluster)
  cases r with
  | ok _ =>
    rw [bind_ok _ fetched] at run
    cases run
  | error _ =>
    rw [bind_error _ fetched] at run
    cases run
    exact cacheRead_error coherent fetched

theorem fat32WriteEntry_triple (value : Nat) :
    Triple (· = io) (fat32WriteEntry env ctx cluster value)
      (fun _ io' => io'.Coherent ∧ io'.view = writeFat ctx io.view cluster value ∧ io'.file = io.file)
      fun _ io' => io'.Coherent ∧ Looked io io' ∧ ¬env.Ideal := by
  have failed : ∀ e io', fat32WriteEntry env ctx cluster value io = some (.error e, io') → Looked io io' := by
    intro e io' run
    rw [fat32WriteEntry, reject_bind_neg _ (by rw [known]; decide)] at run
    obtain ⟨r, io₁, fetched, -, -, outcome⟩ := cacheRead_acts env coherent (fatSector ctx cluster)
    cases r with
    | ok _ =>
      rw [bind_ok _ fetched] at run
      cases run
    | error _ =>
      rw [bind_error _ fetched] at run
      cases run
      exact cacheRead_error coherent fetched
  exact ((fat32WriteEntry_acts env coherent known value).triple failed).weaken (fun _ h => h)
    (fun _ _ h => ⟨h.2.1, h.2.2.1, h.2.2.2.1⟩) fun _ _ h => h

end Calls

def Marked (ctx : Context) (io : Io) (cluster : Nat) (io' : Io) : Prop :=
  cluster ∈ freeClusters ctx io.view ∧ io'.view = writeFat ctx io.view cluster fat32EocMin ∧ io'.file = io.file

theorem findFreeFrom_triple {left : Nat} (coherent : io.Coherent)
    (known : ∀ c, cluster ≤ c → c < cluster + left → inRange ctx c = true) :
    Triple (· = io) (findFreeFrom env ctx left cluster)
      (fun c io' => io'.Coherent ∧ Looked io io' ∧ c ∈ freeClusters ctx io.view)
      fun _ io' => io'.Coherent ∧ Looked io io' := by
  induction left generalizing cluster io with
  | zero =>
    rintro io rfl r io' run
    cases run
    exact ⟨coherent, Looked.refl io⟩
  | succ left ih =>
    have first := known cluster (Nat.le_refl _) (by omega)
    rw [findFreeFrom]
    refine .bind ((fat32ReadEntry_triple env coherent first).weaken (fun _ h => h) (fun _ _ h => h)
      fun _ _ h => ⟨h.1, h.2.1⟩) fun next => ?_
    rintro io₁ ⟨rfl, coherent₁, looked⟩
    have same := looked.view
    by_cases free : fatEntry ctx io.view cluster = fat32FreeCluster
    · rw [if_pos free]
      intro r io' run
      cases run
      exact ⟨coherent₁, looked, mem_freeClusters.mpr ⟨first, free⟩⟩
    · rw [if_neg free]
      have rest := @ih io₁ (cluster + 1) coherent₁ fun c low high => known c (by omega) (by omega)
      rw [same] at rest
      refine Triple.weaken rest (fun _ h => h) (fun c io' h => ?_) (fun e io' h => ?_) io₁ rfl
      · exact ⟨h.1, looked.trans h.2.1, h.2.2⟩
      · exact ⟨h.1, looked.trans h.2⟩

theorem fat32AllocateCluster_triple (wf : FatWellFormed ctx) (coherent : io.Coherent) :
    Triple (· = io) (fat32AllocateCluster env ctx) (fun c io' => io'.Coherent ∧ Marked ctx io c io') fun _ io' =>
      io'.Coherent ∧ (Looked io io' ∨ ∃ c, Marked ctx io c io') ∧
        (env.Ideal → freeClusters ctx io.view = ∅ ∧ io'.view = io.view) := by
  have shape : Triple (· = io) (fat32AllocateCluster env ctx) (fun c io' => io'.Coherent ∧ Marked ctx io c io')
      fun _ io' =>
      io'.Coherent ∧ (Looked io io' ∨ ∃ c, Marked ctx io c io') := by
    have span : ∀ c, fat32ClusterMin ≤ c →
        c < fat32ClusterMin + (word32 (fat32ClusterMin + ctx.totalClusters) - fat32ClusterMin) →
        inRange ctx c = true := by
      intro c low high
      have small := wf.numbers
      have sum : word32 (fat32ClusterMin + ctx.totalClusters) = fat32ClusterMin + ctx.totalClusters :=
        word32_of_lt (by rw [fat32ClusterMin]; omega)
      rw [sum, fat32ClusterMin] at high
      exact wf.inRange_iff.mpr ⟨low, by omega⟩
    rw [fat32AllocateCluster, fat32FindFreeCluster]
    refine .bind ((findFreeFrom_triple coherent span).weaken (fun _ h => h) (fun _ _ h => h)
      fun _ _ h => ⟨h.1, .inl h.2⟩) fun c => ?_
    rintro io₁ ⟨coherent₁, looked, free⟩
    refine Triple.bind (P := (· = io₁)) ((fat32WriteEntry_triple env coherent₁ (mem_freeClusters.mp free).1
      fat32EocMin).weaken (fun _ h => h) (fun _ _ h => h)
      fun _ _ h => ⟨h.1, .inl (looked.trans h.2.1)⟩) (fun _ => ?_) io₁ rfl
    rintro io₂ ⟨coherent₂, view, file⟩
    have marked : ∀ io₃, Looked io₂ io₃ → Marked ctx io c io₃ := by
      intro io₃ later
      refine ⟨free, ?_, later.file.trans (file.trans looked.file)⟩
      rw [later.view, view, looked.view]
    refine Triple.bind (P := (· = io₂)) ((cacheWrite_triple env coherent₂).weaken (fun _ h => h)
      (fun _ _ h => h) fun _ _ h => ⟨h.1, .inr ⟨c, marked _ h.2.1⟩⟩) (fun _ => ?_) io₂ rfl
    exact .pure fun io₃ h => ⟨h.1, marked io₃ h.2⟩
  rintro io rfl r io' run
  have post := shape io rfl r io' run
  cases r with
  | ok c => exact post
  | error e =>
    refine ⟨post.1, post.2, fun ideal => ?_⟩
    rcases allocateCluster_runs wf ideal coherent with ⟨c, io₁, -, run₁, -, -⟩ | ⟨none, io₁, run₁, -, view⟩
    · rw [run₁] at run
      cases run
    · rw [run₁] at run
      cases run
      exact ⟨none, view⟩

end XSDK.Fs
