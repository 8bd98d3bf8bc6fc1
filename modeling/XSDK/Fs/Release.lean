import XSDK.Fs.Scan

/-! Releasing a chain and making a new cluster: how many requests they take, whatever the
links are. Every link that the release follows is zero from then on, so it is not followed
again. -/
namespace XSDK.Fs

open Library Prog

variable {α : Type} {env : Env} {ctx : Context} {io : Io} {cluster value : Nat}

theorem Acts.within {m : IoM α} {cost : Nat}
    (h : ∀ io : Io, io.Coherent → ∃ (answer : Except Error α) (after : Io → Prop), Acts env m cost io answer after) :
    Within Io.Coherent Io.calls cost m := by
  intro io coherent
  obtain ⟨_, _, r, io', run, coherent', calls, _⟩ := h io coherent
  exact ⟨r, io', run, coherent', calls⟩

variable (env) in
theorem cacheWrite_within : Within Io.Coherent Io.calls 1 (cacheWrite env) :=
  Acts.within fun _ coherent => ⟨_, _, cacheWrite_acts _ coherent⟩

theorem fat32ReadEntry_within : Within Io.Coherent Io.calls 2 (fat32ReadEntry env ctx cluster) := by
  cases known : inRange ctx cluster with
  | true => exact Acts.within fun _ coherent => ⟨_, _, fat32ReadEntry_acts _ coherent known⟩
  | false =>
    rw [fat32ReadEntry, reject_bind_pos _ known]
    exact Within.fail.weaken (Nat.zero_le _)

theorem fat32WriteEntry_within : Within Io.Coherent Io.calls 2 (fat32WriteEntry env ctx cluster value) := by
  cases known : inRange ctx cluster with
  | true => exact Acts.within fun _ coherent => ⟨_, _, fat32WriteEntry_acts _ coherent known value⟩
  | false =>
    rw [fat32WriteEntry, reject_bind_pos _ known]
    exact Within.fail.weaken (Nat.zero_le _)

theorem findFreeFrom_within {left : Nat} :
    Within Io.Coherent Io.calls (2 * left) (findFreeFrom env ctx left cluster) := by
  induction left generalizing cluster with
  | zero => exact Within.fail
  | succ left ih =>
    have split : 2 * (left + 1) = 2 + 2 * left := by omega
    rw [split, findFreeFrom]
    refine fat32ReadEntry_within.bind fun value => ?_
    exact .ite (fun _ => Within.pure.weaken (Nat.zero_le _)) fun _ => ih

theorem fat32AllocateCluster_within :
    Within Io.Coherent Io.calls (2 * ctx.totalClusters + 3) (fat32AllocateCluster env ctx) := by
  have few : word32 (fat32ClusterMin + ctx.totalClusters) - fat32ClusterMin ≤ ctx.totalClusters := by
    have bound : word32 (fat32ClusterMin + ctx.totalClusters) ≤ fat32ClusterMin + ctx.totalClusters := Nat.mod_le _ _
    omega
  refine (findFreeFrom_within.bind fun cluster => fat32WriteEntry_within.bind fun _ =>
    (cacheWrite_within env).bind fun _ => Within.pure).weaken ?_
  omega

theorem overwriteSector_ends (env : Env) (sector : Nat) (io : Io) :
    ∃ r io', overwriteSector env sector io = some (r, io') ∧ io'.Coherent ∧ io'.calls ≤ io.calls + 1 := by
  have dirty : Io.Coherent { io with
      touched := sector :: io.touched,
      cache := { io.cache with sector := sector, isValid := true, isDirty := true } } := by
    intro _ clean
    cases clean
  obtain ⟨r, io', run, coherent, calls, _⟩ := cacheWrite_acts env dirty
  exact ⟨r, io', run, coherent, calls⟩

theorem zeroNewCluster_within (mounted : Mounted ctx) :
    Within Io.Coherent Io.calls ctx.sectorsPerCluster (zeroNewCluster env ctx cluster) := by
  intro io _
  obtain ⟨n, size⟩ : ∃ n, ctx.sectorsPerCluster = n + 1 :=
    ⟨ctx.sectorsPerCluster - 1, by have positive := mounted.sectorsPerCluster; omega⟩
  have later : Within Io.Coherent Io.calls (n * 1)
      (forEach (fun index => overwriteSector env (word32 (clusterToSector ctx cluster + index))) n 1) :=
    Within.forEach fun _ io _ => overwriteSector_ends env _ io
  obtain ⟨r, io', run, coherent, calls⟩ := overwriteSector_ends env
    (word32 (clusterToSector ctx cluster + 0)) { io with cache := { io.cache with buffer := zeroSector } }
  have shape : zeroNewCluster env ctx cluster io =
      (overwriteSector env (word32 (clusterToSector ctx cluster + 0)) >>= fun _ =>
        forEach (fun index => overwriteSector env (word32 (clusterToSector ctx cluster + index))) n 1)
        { io with cache := { io.cache with buffer := zeroSector } } := by
    rw [zeroNewCluster, size]
    rfl
  rw [shape, size]
  cases r with
  | error e => exact ⟨_, io', bind_error _ run, coherent, Nat.le_trans calls (Nat.add_le_add_left (by omega) _)⟩
  | ok _ =>
    obtain ⟨r, io'', run', coherent', calls'⟩ := later io' coherent
    refine ⟨r, io'', (bind_ok _ run).trans run', coherent', ?_⟩
    change io'.calls ≤ io.calls + 1 at calls
    omega

def occupied (ctx : Context) (disk : Nat → Sector) : Finset Nat :=
  (clusters ctx).filter fun cluster => fatEntry ctx disk cluster ≠ fat32FreeCluster

theorem card_occupied_le (ctx : Context) (disk : Nat → Sector) : (occupied ctx disk).card ≤ ctx.totalClusters :=
  Nat.le_trans (Finset.card_filter_le _ _) (card_clusters_le ctx)

theorem occupied_writeFat_lt {disk : Nat → Sector} (sized : ctx.bytesPerSector = sectorSize)
    (known : inRange ctx cluster = true) (linked : fatEntry ctx disk cluster ≠ fat32FreeCluster) :
    (occupied ctx (writeFat ctx disk cluster fat32FreeCluster)).card < (occupied ctx disk).card := by
  apply Finset.card_lt_card
  rw [Finset.ssubset_iff_of_subset]
  · refine ⟨cluster, Finset.mem_filter.mpr ⟨mem_clusters.mpr known, linked⟩, fun still => ?_⟩
    exact (Finset.mem_filter.mp still).2 (fatEntry_writeFat ctx disk cluster fat32FreeCluster)
  · intro other member
    obtain ⟨inside, still⟩ := Finset.mem_filter.mp member
    refine Finset.mem_filter.mpr ⟨inside, fun free => still ?_⟩
    rcases fatEntry_writeFat_cases disk cluster fat32FreeCluster other sized with freed | same
    · exact freed
    · exact same.trans free

theorem releaseFrom_ends (sized : ctx.bytesPerSector = sectorSize) {fuel n : Nat} (coherent : io.Coherent)
    (few : (occupied ctx io.view).card ≤ n) (enough : n + 2 ≤ fuel) :
    ∃ r io', releaseFrom env ctx fuel cluster io = some (r, io') ∧ io'.Coherent ∧
      io'.calls ≤ io.calls + (5 * n + 5) := by
  induction n generalizing fuel cluster io with
  | zero =>
    obtain ⟨fuel, rfl⟩ : ∃ k, fuel = k + 2 := ⟨fuel - 2, by omega⟩
    rw [releaseFrom]
    split
    · next known =>
      have free : fatEntry ctx io.view cluster = fat32FreeCluster := by
        by_contra linked
        have member : cluster ∈ occupied ctx io.view := Finset.mem_filter.mpr ⟨mem_clusters.mpr known, linked⟩
        rw [Finset.card_eq_zero.mp (Nat.le_zero.mp few)] at member
        cases member
      -- A link of zero leads out of the volume, which ends the next round.
      have round : Acts env (fat32ReadEntry env ctx cluster >>= fun next =>
          fat32WriteEntry env ctx cluster fat32FreeCluster >>= fun _ =>
            if isEoc next = true then cacheWrite env else releaseFrom env ctx (fuel + 1) next) (2 + (2 + 0)) io
          (.error .corrupt) fun _ => True := by
        refine (fat32ReadEntry_acts env coherent known).bind fun io' coherent' looked => ?_
        refine (fat32WriteEntry_acts env coherent' known fat32FreeCluster).bind fun io'' coherent'' _ => ?_
        rw [free, if_neg (by decide), releaseFrom, if_neg]
        · exact .fail coherent'' trivial
        · rw [inRange, fat32FreeCluster, fat32ClusterMin]
          simp
      obtain ⟨r, io', run, coherent', calls, _⟩ := round
      exact ⟨r, io', run, coherent', by omega⟩
    · exact ⟨_, io, rfl, coherent, by omega⟩
  | succ n ih =>
    obtain ⟨fuel, rfl⟩ : ∃ k, fuel = k + 1 := ⟨fuel - 1, by omega⟩
    rw [releaseFrom]
    split
    · next known =>
      obtain ⟨r, io', run, coherent', calls, outcome⟩ := fat32ReadEntry_acts env coherent known
      rcases outcome with ⟨same, looked⟩ | ⟨⟨code, failed⟩, _⟩
      · subst same
        rw [bind_ok _ run]
        obtain ⟨r, io'', run', coherent'', calls', outcome⟩ :=
          fat32WriteEntry_acts env coherent' known fat32FreeCluster
        rcases outcome with ⟨same, written, _, _⟩ | ⟨⟨code, failed⟩, _⟩
        · subst same
          rw [bind_ok _ run']
          split
          · obtain ⟨r, io₃, run₃, coherent₃, calls₃⟩ := cacheWrite_within env io'' coherent''
            exact ⟨r, io₃, run₃, coherent₃, by omega⟩
          · by_cases linked : fatEntry ctx io.view cluster = fat32FreeCluster
            · obtain ⟨fuel, rfl⟩ : ∃ k, fuel = k + 1 := ⟨fuel - 1, by omega⟩
              rw [linked, releaseFrom, if_neg]
              · exact ⟨_, io'', rfl, coherent'', by omega⟩
              · rw [inRange, fat32FreeCluster, fat32ClusterMin]
                simp
            · have fewer := occupied_writeFat_lt sized known linked
              rw [← looked.view, ← written] at fewer
              rw [looked.view] at fewer
              have later := @ih io'' (fatEntry ctx io.view cluster) fuel coherent'' (by omega) (by omega)
              obtain ⟨r, io₃, run₃, coherent₃, calls₃⟩ := later
              exact ⟨r, io₃, run₃, coherent₃, by omega⟩
        · subst failed
          exact ⟨_, io'', bind_error _ run', coherent'', by omega⟩
      · subst failed
        exact ⟨_, io', bind_error _ run, coherent', by omega⟩
    · exact ⟨_, io, rfl, coherent, by omega⟩

def releaseCost (ctx : Context) : Nat := 5 * ctx.totalClusters + 5

theorem fat32ReleaseChain_within (mounted : Mounted ctx) (enough : ctx.totalClusters + 2 ≤ env.fuel) (cluster : Nat) :
    Within Io.Coherent Io.calls (releaseCost ctx) (fat32ReleaseChain env ctx cluster) := by
  rw [fat32ReleaseChain]
  refine .rejectThen fun _ io coherent => ?_
  exact releaseFrom_ends mounted.bytesPerSector coherent (card_occupied_le ctx io.view) enough

def extendCost (ctx : Context) : Nat :=
  2 * ctx.totalClusters + 3 + (ctx.sectorsPerCluster + releaseCost ctx + (2 + releaseCost ctx + (1 + releaseCost ctx)))

theorem directoryExtendChain_within (mounted : Mounted ctx) (enough : ctx.totalClusters + 2 ≤ env.fuel) :
    Within Io.Coherent Io.calls (extendCost ctx) (directoryExtendChain env ctx cluster) := by
  refine fat32AllocateCluster_within.bind fun new => ?_
  have release := fat32ReleaseChain_within mounted enough new
  refine Within.bind (.onError (.rejectThen fun _ => zeroNewCluster_within mounted) release) fun _ => ?_
  refine Within.bind (.onError fat32WriteEntry_within release) fun _ => ?_
  exact (Within.bind (.onError (cacheWrite_within env) release) fun _ => Within.pure).weaken (by omega)

end XSDK.Fs
