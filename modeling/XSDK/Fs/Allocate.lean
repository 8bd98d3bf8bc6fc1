import XSDK.Fs.Release
import XSDK.Library.Chain

/-! Allocating a chain of clusters: all of it, or nothing on a full disk. -/
namespace XSDK.Fs

open Library Prog
open List (mem_append mem_append_right mem_cons_self mem_singleton not_mem_nil)

/-- Every link has a place of its own, and every cluster a number that is no mark. -/
structure FatWellFormed (ctx : Context) : Prop where
  bytesPerSector : ctx.bytesPerSector = sectorSize
  numbers : ctx.totalClusters + 2 ≤ 0x0FFFFFF7
  sectors : ctx.fatStartSector + (ctx.totalClusters + 2) * fat32EntrySize / sectorSize < 2 ^ 32

theorem Geometry.fatWellFormed {ctx : Context} (geometry : Geometry ctx) : FatWellFormed ctx := by
  have covered := geometry.covered
  have inside := geometry.inside
  refine ⟨geometry.bytesPerSector, geometry.numbers, ?_⟩
  simp only [fat32EntrySize, sectorSize] at covered ⊢
  omega

def freeClusters (ctx : Context) (disk : Nat → Sector) : Finset Nat :=
  (clusters ctx).filter fun cluster => fatEntry ctx disk cluster = fat32FreeCluster

/-- Where a link leads; nowhere from the end of a chain. -/
def linkOf (ctx : Context) (disk : Nat → Sector) (cluster : Nat) : Option Nat :=
  if isEoc (fatEntry ctx disk cluster) = true then none else some (fatEntry ctx disk cluster)

variable {env : Env} {ctx : Context} {io : Io} {cluster other value : Nat}

section Links

variable (wf : FatWellFormed ctx)
include wf

theorem FatWellFormed.inRange_iff : inRange ctx cluster = true ↔ 2 ≤ cluster ∧ cluster < 2 + ctx.totalClusters := by
  have small := wf.numbers
  have sum : word32 (fat32ClusterMin + ctx.totalClusters) = 2 + ctx.totalClusters := by
    apply word32_of_lt
    simp only [fat32ClusterMin]
    omega
  rw [inRange, sum]
  exact decide_eq_true_iff

theorem fatEntry_writeFat_ne {disk : Nat → Sector} (inside : other < 2 + ctx.totalClusters)
    (known : inRange ctx cluster = true) (ne : other ≠ cluster) :
    fatEntry ctx (writeFat ctx disk cluster value) other = fatEntry ctx disk other := by
  obtain ⟨-, high⟩ := wf.inRange_iff.mp known
  have small := wf.numbers
  have place : ∀ c, c < 2 + ctx.totalClusters →
      fatSector ctx c = ctx.fatStartSector + c * 4 / 512 ∧ fatOffset ctx c = c * 4 % 512 := by
    intro c bound
    have sectors := wf.sectors
    have product : word32 (c * fat32EntrySize) = c * 4 := word32_of_lt (by simp only [fat32EntrySize]; omega)
    simp only [fat32EntrySize, sectorSize] at sectors
    rw [fatSector, fatOffset, product, wf.bytesPerSector, sectorSize]
    exact ⟨word32_of_lt (by omega), rfl⟩
  apply fatEntry_writeFat_other wf.bytesPerSector
  rw [(place other inside).1, (place other inside).2, (place cluster high).1, (place cluster high).2]
  omega

theorem linkOf_writeFat_self {disk : Nat → Sector} (inside : value < 2 + ctx.totalClusters) :
    linkOf ctx (writeFat ctx disk cluster value) cluster = some value := by
  have small := wf.numbers
  have kept : value % fat32EntryMask = value := Nat.mod_eq_of_lt (by rw [fat32EntryMask]; omega)
  have open' : isEoc value = false := by
    rw [isEoc, fat32EocMin]
    exact decide_eq_false (by omega)
  rw [linkOf, fatEntry_writeFat, kept, open']
  rfl

theorem linkOf_writeFat_ne {disk : Nat → Sector} (inside : other < 2 + ctx.totalClusters)
    (known : inRange ctx cluster = true) (ne : other ≠ cluster) :
    linkOf ctx (writeFat ctx disk cluster value) other = linkOf ctx disk other := by
  rw [linkOf, fatEntry_writeFat_ne wf inside known ne, linkOf]

end Links

theorem linkOf_writeFat_eoc (disk : Nat → Sector) (cluster : Nat) :
    linkOf ctx (writeFat ctx disk cluster fat32EocMin) cluster = none := by
  rw [linkOf, fatEntry_writeFat]
  rfl

section Find

def firstFree (ctx : Context) (disk : Nat → Sector) : Nat → Nat → Except Error Nat
  | 0, _ => .error .diskFull
  | left + 1, cluster =>
    if fatEntry ctx disk cluster = fat32FreeCluster then .ok cluster else firstFree ctx disk left (cluster + 1)

theorem findFreeFrom_acts {left : Nat} (coherent : io.Coherent)
    (known : ∀ c, cluster ≤ c → c < cluster + left → inRange ctx c = true) :
    Acts env (findFreeFrom env ctx left cluster) (2 * left) io (firstFree ctx io.view left cluster) (Looked io) := by
  induction left generalizing cluster io with
  | zero => exact .fail coherent (Looked.refl io)
  | succ left ih =>
    have split : 2 * (left + 1) = 2 + 2 * left := by omega
    rw [split, findFreeFrom, firstFree]
    have first := known cluster (Nat.le_refl _) (by omega)
    refine (fat32ReadEntry_acts env coherent first).bind fun io' coherent' looked => ?_
    by_cases free : fatEntry ctx io.view cluster = fat32FreeCluster
    · rw [if_pos free, if_pos free]
      exact (Acts.pure coherent' looked).weaken (by omega) fun _ h => h
    · rw [if_neg free, if_neg free, ← looked.view]
      have rest := @ih io' (cluster + 1) coherent' fun c low high => known c (by omega) (by omega)
      exact rest.weaken (Nat.le_refl _) fun io'' later => looked.trans later

theorem firstFree_ok {disk : Nat → Sector} {left found : Nat} (h : firstFree ctx disk left cluster = .ok found) :
    cluster ≤ found ∧ found < cluster + left ∧ fatEntry ctx disk found = fat32FreeCluster := by
  induction left generalizing cluster with
  | zero => exact nomatch h
  | succ left ih =>
    rw [firstFree] at h
    by_cases free : fatEntry ctx disk cluster = fat32FreeCluster
    · rw [if_pos free] at h
      cases h
      exact ⟨Nat.le_refl _, by omega, free⟩
    · rw [if_neg free] at h
      obtain ⟨low, high, is⟩ := ih h
      exact ⟨by omega, by omega, is⟩

theorem firstFree_error {disk : Nat → Sector} {left : Nat} {e : Error}
    (h : firstFree ctx disk left cluster = .error e) :
    e = .diskFull ∧ ∀ c, cluster ≤ c → c < cluster + left → fatEntry ctx disk c ≠ fat32FreeCluster := by
  induction left generalizing cluster with
  | zero =>
    cases h
    exact ⟨rfl, fun c low high => by omega⟩
  | succ left ih =>
    rw [firstFree] at h
    by_cases free : fatEntry ctx disk cluster = fat32FreeCluster
    · rw [if_pos free] at h
      exact nomatch h
    · rw [if_neg free] at h
      obtain ⟨full, none⟩ := ih h
      refine ⟨full, fun c low high => ?_⟩
      rcases Nat.eq_or_lt_of_le low with rfl | later
      · exact free
      · exact none c later (by omega)

end Find

theorem mem_freeClusters {disk : Nat → Sector} :
    cluster ∈ freeClusters ctx disk ↔ inRange ctx cluster = true ∧ fatEntry ctx disk cluster = fat32FreeCluster := by
  rw [freeClusters, Finset.mem_filter, mem_clusters]

theorem allocateCluster_runs (wf : FatWellFormed ctx) (ideal : env.Ideal) (coherent : io.Coherent) :
    (∃ c io', c ∈ freeClusters ctx io.view ∧ fat32AllocateCluster env ctx io = some (.ok c, io') ∧ io'.Coherent ∧
        io'.view = writeFat ctx io.view c fat32EocMin) ∨
      (freeClusters ctx io.view = ∅ ∧
        ∃ io', fat32AllocateCluster env ctx io = some (.error .diskFull, io') ∧ io'.Coherent ∧ io'.view = io.view) := by
  have span : fat32ClusterMin + (word32 (fat32ClusterMin + ctx.totalClusters) - fat32ClusterMin) =
      2 + ctx.totalClusters := by
    have small := wf.numbers
    have sum : word32 (fat32ClusterMin + ctx.totalClusters) = fat32ClusterMin + ctx.totalClusters :=
      word32_of_lt (by rw [fat32ClusterMin]; omega)
    rw [sum, fat32ClusterMin]
    omega
  have known : ∀ c, fat32ClusterMin ≤ c →
      c < fat32ClusterMin + (word32 (fat32ClusterMin + ctx.totalClusters) - fat32ClusterMin) →
      inRange ctx c = true := by
    intro c low high
    rw [span] at high
    exact wf.inRange_iff.mpr ⟨low, high⟩
  have find : Acts env _ _ _ _ _ := findFreeFrom_acts coherent known
  cases answer : firstFree ctx io.view (word32 (fat32ClusterMin + ctx.totalClusters) - fat32ClusterMin) fat32ClusterMin with
  | ok c =>
    left
    obtain ⟨low, high, free⟩ := firstFree_ok answer
    have inside := known c low high
    rw [answer] at find
    have whole : Acts env (fat32AllocateCluster env ctx)
        (2 * (word32 (fat32ClusterMin + ctx.totalClusters) - fat32ClusterMin) + 3) io (.ok c) fun io' =>
        io'.view = writeFat ctx io.view c fat32EocMin := by
      rw [fat32AllocateCluster, fat32FindFreeCluster]
      refine find.bind (d := 3) fun io₁ coherent₁ looked => ?_
      refine (fat32WriteEntry_acts env coherent₁ inside fat32EocMin).bind (d := 1) fun io₂ coherent₂ written => ?_
      refine (cacheWrite_acts env coherent₂).bind (d := 0) fun io₃ coherent₃ flushed => ?_
      refine .pure coherent₃ ?_
      rw [flushed.view, written.1, looked.view]
    obtain ⟨io', run, coherent', view⟩ := whole.ideal ideal
    exact ⟨c, io', mem_freeClusters.mpr ⟨inside, free⟩, run, coherent', view⟩
  | error e =>
    right
    obtain ⟨rfl, none⟩ := firstFree_error answer
    rw [answer] at find
    have whole : Acts env (fat32AllocateCluster env ctx)
        (2 * (word32 (fat32ClusterMin + ctx.totalClusters) - fat32ClusterMin)) io (.error .diskFull) (Looked io) := by
      rw [fat32AllocateCluster, fat32FindFreeCluster]
      exact find.bind_error
    obtain ⟨io', run, coherent', looked⟩ := whole.ideal ideal
    refine ⟨?_, io', run, coherent', looked.view⟩
    rw [Finset.eq_empty_iff_forall_notMem]
    intro c mem
    obtain ⟨inside, free⟩ := mem_freeClusters.mp mem
    obtain ⟨low, high⟩ := wf.inRange_iff.mp inside
    exact none c low (by rw [span]; exact high) free

section Release

variable (wf : FatWellFormed ctx) (ideal : env.Ideal)
include wf ideal

theorem releaseFrom_frees {l : List Nat} {fuel : Nat} (coherent : io.Coherent)
    (chain : Chain (linkOf ctx io.view) (some cluster) (cluster :: l))
    (known : ∀ c ∈ cluster :: l, inRange ctx c = true) (enough : l.length < fuel) :
    ∃ io', releaseFrom env ctx fuel cluster io = some (.ok (), io') ∧ io'.Coherent ∧
      (∀ c ∈ cluster :: l, fatEntry ctx io'.view c = fat32FreeCluster) ∧
      ∀ c < 2 + ctx.totalClusters, c ∉ cluster :: l → fatEntry ctx io'.view c = fatEntry ctx io.view c := by
  induction l generalizing cluster fuel io with
  | nil =>
    obtain ⟨fuel, rfl⟩ : ∃ k, fuel = k + 1 := ⟨fuel - 1, by omega⟩
    have inside := known cluster mem_cons_self
    have last : isEoc (fatEntry ctx io.view cluster) = true := by
      by_contra more
      have go : linkOf ctx io.view cluster = none := chain.2
      rw [linkOf, if_neg more] at go
      cases go
    have round : Acts env (releaseFrom env ctx (fuel + 1) cluster) (2 + (2 + 1)) io (.ok ())
        fun io' => io'.view = writeFat ctx io.view cluster fat32FreeCluster := by
      rw [releaseFrom, if_pos inside]
      refine (fat32ReadEntry_acts env coherent inside).bind fun io₁ coherent₁ looked => ?_
      refine (fat32WriteEntry_acts env coherent₁ inside fat32FreeCluster).bind fun io₂ coherent₂ written => ?_
      rw [if_pos last]
      refine (cacheWrite_acts env coherent₂).weaken (Nat.le_refl _) fun io₃ flushed => ?_
      rw [flushed.view, written.1, looked.view]
    obtain ⟨io', run, coherent', view⟩ := round.ideal ideal
    refine ⟨io', run, coherent', fun c mem => ?_, fun c bound other => ?_⟩
    · rw [mem_singleton.mp mem, view]
      exact fatEntry_writeFat ctx io.view cluster fat32FreeCluster
    · rw [view]
      exact fatEntry_writeFat_ne wf bound inside fun same => other (mem_singleton.mpr same)
  | cons next l ih =>
    obtain ⟨fuel, rfl⟩ : ∃ k, fuel = k + 1 := ⟨fuel - 1, by omega⟩
    have inside := known cluster mem_cons_self
    have nodup := chain.nodup
    obtain ⟨fresh, -⟩ := List.nodup_cons.mp nodup
    obtain ⟨-, rest⟩ := chain
    have go : linkOf ctx io.view cluster = some next := rest.1
    have more : ¬isEoc (fatEntry ctx io.view cluster) = true := by
      intro last
      rw [linkOf, if_pos last] at go
      cases go
    have leads : fatEntry ctx io.view cluster = next := by
      rw [linkOf, if_neg more] at go
      exact Option.some.inj go
    obtain ⟨io₁, run₁, coherent₁, looked⟩ := (fat32ReadEntry_acts env coherent inside).ideal ideal
    obtain ⟨io₂, run₂, coherent₂, written, -⟩ :=
      (fat32WriteEntry_acts env coherent₁ inside fat32FreeCluster).ideal ideal
    rw [looked.view] at written
    have kept : ∀ c ∈ next :: l, linkOf ctx io₂.view c = linkOf ctx io.view c := by
      intro c mem
      obtain ⟨-, high⟩ := wf.inRange_iff.mp (known c (List.mem_cons_of_mem cluster mem))
      rw [written]
      exact linkOf_writeFat_ne wf high inside fun same => fresh (same ▸ mem)
    rw [go] at rest
    obtain ⟨io', run, coherent', freed, others⟩ := @ih io₂ next fuel coherent₂ (rest.congr kept)
      (fun c mem => known c (List.mem_cons_of_mem cluster mem)) (by
        rw [List.length_cons] at enough
        omega)
    have shape : releaseFrom env ctx (fuel + 1) cluster io = some (.ok (), io') := by
      rw [releaseFrom, if_pos inside, bind_ok _ run₁, bind_ok _ run₂, if_neg more, leads]
      exact run
    refine ⟨io', shape, coherent', fun c mem => ?_, fun c bound other => ?_⟩
    · rcases List.mem_cons.mp mem with rfl | later
      · obtain ⟨-, high⟩ := wf.inRange_iff.mp inside
        rw [others c high fresh, written]
        exact fatEntry_writeFat ctx io.view c fat32FreeCluster
      · exact freed c later
    · rw [others c bound fun mem => other (List.mem_cons_of_mem cluster mem), written]
      exact fatEntry_writeFat_ne wf bound inside fun same => other (same ▸ mem_cons_self)

end Release

/-- The chain built so far out of clusters that were free, with everything else as it was. -/
structure Built (ctx : Context) (start disk : Nat → Sector) (chain : List Nat) : Prop where
  free : ∀ c ∈ chain, c ∈ freeClusters ctx start
  links : Chain (linkOf ctx disk) chain.head? chain
  taken : ∀ c ∈ chain, fatEntry ctx disk c ≠ fat32FreeCluster
  others : ∀ c < 2 + ctx.totalClusters, c ∉ chain → fatEntry ctx disk c = fatEntry ctx start c

namespace Built

variable {start disk : Nat → Sector} {chain : List Nat}

theorem nil (ctx : Context) (disk : Nat → Sector) : Built ctx disk disk [] :=
  ⟨fun _ mem => absurd mem not_mem_nil, rfl, fun _ mem => absurd mem not_mem_nil, fun _ _ _ => rfl⟩

theorem known (built : Built ctx start disk chain) : ∀ c ∈ chain, inRange ctx c = true :=
  fun c mem => (mem_freeClusters.mp (built.free c mem)).1

theorem nodup (built : Built ctx start disk chain) : chain.Nodup := built.links.nodup

variable (wf : FatWellFormed ctx)
include wf

theorem free_iff (built : Built ctx start disk chain) :
    cluster ∈ freeClusters ctx disk ↔ cluster ∈ freeClusters ctx start ∧ cluster ∉ chain := by
  rw [mem_freeClusters, mem_freeClusters]
  constructor
  · rintro ⟨inside, free⟩
    have fresh : cluster ∉ chain := fun mem => built.taken cluster mem free
    rw [built.others cluster (wf.inRange_iff.mp inside).2 fresh] at free
    exact ⟨⟨inside, free⟩, fresh⟩
  · rintro ⟨⟨inside, free⟩, fresh⟩
    exact ⟨inside, by rw [built.others cluster (wf.inRange_iff.mp inside).2 fresh]; exact free⟩

theorem card (built : Built ctx start disk chain) :
    (freeClusters ctx disk).card + chain.length = (freeClusters ctx start).card := by
  have subset : chain.toFinset ⊆ freeClusters ctx start := fun c mem => built.free c (List.mem_toFinset.mp mem)
  have rest : freeClusters ctx disk = freeClusters ctx start \ chain.toFinset := by
    ext c
    rw [Finset.mem_sdiff, List.mem_toFinset]
    exact built.free_iff wf
  have count := Finset.card_sdiff_add_card_eq_card subset
  rwa [← rest, List.toFinset_card_of_nodup built.nodup] at count

theorem single (built : Built ctx start disk []) (free : cluster ∈ freeClusters ctx disk) :
    Built ctx start (writeFat ctx disk cluster fat32EocMin) [cluster] := by
  have was := (built.free_iff wf).mp free
  have inside := (mem_freeClusters.mp free).1
  refine ⟨fun c mem => ?_, Chain.single (linkOf_writeFat_eoc disk cluster), fun c mem => ?_, fun c bound other => ?_⟩
  · rw [mem_singleton.mp mem]
    exact was.1
  · rw [mem_singleton.mp mem, fatEntry_writeFat]
    decide
  · rw [fatEntry_writeFat_ne wf bound inside fun same => other (mem_singleton.mpr same)]
    exact built.others c bound not_mem_nil

theorem snoc {front : List Nat} {last : Nat} (built : Built ctx start disk (front ++ [last]))
    (free : cluster ∈ freeClusters ctx disk) :
    Built ctx start (writeFat ctx (writeFat ctx disk cluster fat32EocMin) last cluster)
      (front ++ [last] ++ [cluster]) := by
  obtain ⟨was, fresh⟩ := (built.free_iff wf).mp free
  have inside := (mem_freeClusters.mp free).1
  have high := (wf.inRange_iff.mp inside).2
  have low := (wf.inRange_iff.mp inside).1
  have inside' : inRange ctx last = true := built.known last (mem_append_right _ mem_cons_self)
  have ne : cluster ≠ last := fun same => fresh (same ▸ mem_append_right _ mem_cons_self)
  have bound : ∀ c ∈ front ++ [last], c < 2 + ctx.totalClusters :=
    fun c mem => (wf.inRange_iff.mp (built.known c mem)).2
  have ended : Chain (linkOf ctx (writeFat ctx disk cluster fat32EocMin)) (front ++ [last]).head? (front ++ [last]) :=
    built.links.congr fun c mem => linkOf_writeFat_ne wf (bound c mem) inside fun same => fresh (same ▸ mem)
  have longer := ended.snoc fresh (linkOf_writeFat_eoc disk cluster)
  have head : (front ++ [last] ++ [cluster]).head? = (front ++ [last]).head? := by
    cases front with
    | nil => rfl
    | cons a rest => rfl
  refine ⟨fun c mem => ?_, ?_, fun c mem => ?_, fun c within other => ?_⟩
  · rcases mem_append.mp mem with earlier | new
    · exact built.free c earlier
    · rw [mem_singleton.mp new]
      exact was
  · rw [head]
    apply longer.congr
    intro c mem
    by_cases same : c = last
    · rw [same, Function.update_self]
      exact linkOf_writeFat_self wf high
    · rw [Function.update_of_ne same]
      refine linkOf_writeFat_ne wf ?_ inside' same
      rcases mem_append.mp mem with earlier | new
      · exact bound c earlier
      · rw [mem_singleton.mp new]
        exact high
  · by_cases same : c = last
    · have small := wf.numbers
      have kept : cluster % fat32EntryMask = cluster := Nat.mod_eq_of_lt (by rw [fat32EntryMask]; omega)
      rw [same, fatEntry_writeFat, kept, fat32FreeCluster]
      omega
    · rcases mem_append.mp mem with earlier | new
      · have other : c ≠ cluster := fun same => fresh (same ▸ earlier)
        rw [fatEntry_writeFat_ne wf (bound c earlier) inside' same, fatEntry_writeFat_ne wf (bound c earlier) inside other]
        exact built.taken c earlier
      · rw [mem_singleton.mp new, fatEntry_writeFat_ne wf high inside' ne, fatEntry_writeFat]
        decide
  · have apart : c ∉ front ++ [last] := fun mem => other (List.mem_append_left _ mem)
    have other' : c ≠ cluster := fun same => other (mem_append_right _ (mem_singleton.mpr same))
    have last' : c ≠ last := fun same => apart (same ▸ mem_append_right _ mem_cons_self)
    rw [fatEntry_writeFat_ne wf within inside' last', fatEntry_writeFat_ne wf within inside other']
    exact built.others c within apart

end Built

section Allocate

variable (wf : FatWellFormed ctx) (ideal : env.Ideal) (enough : ctx.totalClusters ≤ env.fuel)
include wf ideal

def Tips (chain : List Nat) (first previous : Nat) : Prop :=
  first = chain.head?.getD 0 ∧ previous = chain.getLast?.getD 0

theorem allocateChainFrom_step {start : Nat → Sector} {chain : List Nat} {first previous left c : Nat} {io₁ : Io}
    (built : Built ctx start io.view chain) (ends : Tips chain first previous) (free : c ∈ freeClusters ctx io.view)
    (run : fat32AllocateCluster env ctx io = some (.ok c, io₁)) (coherent₁ : io₁.Coherent)
    (view : io₁.view = writeFat ctx io.view c fat32EocMin) :
    ∃ io', io'.Coherent ∧ Built ctx start io'.view (chain ++ [c]) ∧
      allocateChainFrom env ctx (left + 1) first previous io =
        allocateChainFrom env ctx left ((chain ++ [c]).head?.getD 0) c io' := by
  obtain ⟨rfl, rfl⟩ := ends
  have inside := (mem_freeClusters.mp free).1
  have low := (wf.inRange_iff.mp inside).1
  rcases List.eq_nil_or_concat' chain with rfl | ⟨front, last, rfl⟩
  · refine ⟨io₁, coherent₁, by rw [view]; exact built.single wf free, ?_⟩
    rw [allocateChainFrom, bind_ok _ (attempt_run run)]
    rfl
  · have inside' : inRange ctx last = true := built.known last (mem_append_right _ mem_cons_self)
    have low' := (wf.inRange_iff.mp inside').1
    have linked : Acts env (fat32WriteEntry env ctx last c >>= fun _ => cacheWrite env) (2 + 1) io₁ (.ok ())
        fun io' => io'.view = writeFat ctx (writeFat ctx io.view c fat32EocMin) last c := by
      refine (fat32WriteEntry_acts env coherent₁ inside' c).bind fun io₂ coherent₂ written => ?_
      refine (cacheWrite_acts env coherent₂).weaken (Nat.le_refl _) fun io₃ flushed => ?_
      rw [flushed.view, written.1, view]
    obtain ⟨io', run', coherent', view'⟩ := linked.ideal ideal
    have previous : (front ++ [last]).getLast?.getD 0 = last := by simp
    have head : ∃ a, (front ++ [last]).head?.getD 0 = a ∧ ((front ++ [last]) ++ [c]).head?.getD 0 = a ∧ a ≠ 0 := by
      cases front with
      | nil => exact ⟨last, rfl, rfl, by omega⟩
      | cons a rest =>
        have known := (wf.inRange_iff.mp (built.known a mem_cons_self)).1
        exact ⟨a, rfl, rfl, by omega⟩
    obtain ⟨a, first, first', positive⟩ := head
    refine ⟨io', coherent', by rw [view']; exact built.snoc wf free, ?_⟩
    have some : ¬last = 0 := by omega
    rw [allocateChainFrom, bind_ok _ (attempt_run run), previous, first, first']
    dsimp only
    rw [if_neg positive, if_neg some, bind_ok _ (attempt_run run')]

include enough

theorem allocateChainFrom_full {start : Nat → Sector} {chain : List Nat} {first previous left : Nat} {io₁ : Io}
    (built : Built ctx start io.view chain) (ends : Tips chain first previous)
    (run : fat32AllocateCluster env ctx io = some (.error .diskFull, io₁)) (coherent₁ : io₁.Coherent)
    (view : io₁.view = io.view) :
    ∃ io', allocateChainFrom env ctx (left + 1) first previous io = some (.ok (.error .diskFull, 0), io') ∧
      ∀ c < 2 + ctx.totalClusters, fatEntry ctx io'.view c = fatEntry ctx start c := by
  obtain ⟨rfl, -⟩ := ends
  cases chain with
  | nil =>
    refine ⟨io₁, ?_, fun c bound => ?_⟩
    · rw [allocateChainFrom, bind_ok _ (attempt_run run)]
      rfl
    · rw [view]
      exact built.others c bound not_mem_nil
  | cons a rest =>
    have inside := built.known a mem_cons_self
    have low := (wf.inRange_iff.mp inside).1
    have short : rest.length < env.fuel := by
      have count := built.card wf
      have few : (freeClusters ctx start).card ≤ ctx.totalClusters :=
        Nat.le_trans (Finset.card_filter_le _ _) (card_clusters_le ctx)
      rw [List.length_cons] at count
      omega
    have links := built.links
    rw [← view] at links
    obtain ⟨io', run', coherent', freed, others⟩ := releaseFrom_frees wf ideal coherent₁ links built.known short
    have release : fat32ReleaseChain env ctx a io₁ = some (.ok (), io') := by
      rw [fat32ReleaseChain, reject_bind_neg _ (by rw [inside]; decide)]
      exact run'
    refine ⟨io', ?_, fun c bound => ?_⟩
    · have positive : a ≠ 0 := by omega
      rw [allocateChainFrom, bind_ok _ (attempt_run run)]
      have released : onlyIf (a ≠ 0) (ignore (fat32ReleaseChain env ctx a)) io₁ = some (.ok (), io') := by
        rw [onlyIf, if_pos positive]
        exact ignore_run release
      exact bind_ok _ released
    · by_cases mem : c ∈ a :: rest
      · rw [freed c mem]
        exact (mem_freeClusters.mp (built.free c mem)).2.symm
      · rw [others c bound mem, view]
        exact built.others c bound mem

theorem allocateChainFrom_runs {start : Nat → Sector} {chain : List Nat}
    {first previous left : Nat} (coherent : io.Coherent)
    (built : Built ctx start io.view chain) (ends : Tips chain first previous) :
    (chain.length + left ≤ (freeClusters ctx start).card →
        ∃ io' whole, whole.length = chain.length + left ∧ Built ctx start io'.view whole ∧
          allocateChainFrom env ctx left first previous io = some (.ok (.ok (), whole.head?.getD 0), io')) ∧
      ((freeClusters ctx start).card < chain.length + left →
        ∃ io', allocateChainFrom env ctx left first previous io = some (.ok (.error .diskFull, 0), io') ∧
          ∀ c < 2 + ctx.totalClusters, fatEntry ctx io'.view c = fatEntry ctx start c) := by
  induction left generalizing io chain first previous with
  | zero =>
    have count := built.card wf
    refine ⟨fun _ => ⟨io, chain, rfl, built, ?_⟩, fun few => by omega⟩
    rw [ends.1]
    rfl
  | succ left ih =>
    have count := built.card wf
    rcases allocateCluster_runs wf ideal coherent with
      ⟨c, io₁, free, run, coherent₁, view⟩ | ⟨none, io₁, run, coherent₁, view⟩
    · obtain ⟨io', coherent', built', step⟩ := allocateChainFrom_step wf ideal built ends free run coherent₁ view
      have tips : Tips (chain ++ [c]) ((chain ++ [c]).head?.getD 0) c := ⟨rfl, by simp⟩
      have later := ih coherent' built' tips
      rw [List.length_append, List.length_singleton] at later
      have sum : chain.length + 1 + left = chain.length + (left + 1) := by omega
      rw [sum] at later
      rw [step]
      exact later
    · rw [none, Finset.card_empty] at count
      exact ⟨fun many => by omega, fun _ => allocateChainFrom_full wf ideal enough built ends run coherent₁ view⟩

end Allocate

/-- A chain of exactly this many clusters that were free, linked in order to an end with every other
entry as it was; or, when fewer are free, a full disk with no first cluster and every entry as it was. -/
theorem allocate_chain_all_or_nothing (wf : FatWellFormed ctx) (ideal : env.Ideal)
    (enough : ctx.totalClusters ≤ env.fuel)
    (coherent : io.Coherent) (length firstCluster : Nat) (positive : 1 ≤ length) :
    (length ≤ (freeClusters ctx io.view).card →
        ∃ io' first chain, fat32AllocateChain env ctx length firstCluster io = some (.ok (.ok (), first), io') ∧
          chain.length = length ∧ chain.Nodup ∧ (∀ c ∈ chain, c ∈ freeClusters ctx io.view) ∧
          Chain (linkOf ctx io'.view) (some first) chain ∧
          ∀ c < 2 + ctx.totalClusters, c ∉ chain → fatEntry ctx io'.view c = fatEntry ctx io.view c) ∧
      ((freeClusters ctx io.view).card < length →
        ∃ io', fat32AllocateChain env ctx length firstCluster io = some (.ok (.error .diskFull, 0), io') ∧
          ∀ c < 2 + ctx.totalClusters, fatEntry ctx io'.view c = fatEntry ctx io.view c) := by
  have start : fat32AllocateChain env ctx length firstCluster = allocateChainFrom env ctx length 0 0 :=
    if_neg (by omega)
  have tips : Tips [] 0 0 := ⟨rfl, rfl⟩
  obtain ⟨some, none⟩ := @allocateChainFrom_runs env ctx io wf ideal enough io.view [] 0 0 length coherent
    (Built.nil ctx io.view) tips
  rw [List.length_nil, Nat.zero_add] at some none
  rw [start]
  refine ⟨fun many => ?_, none⟩
  obtain ⟨io', chain, size, built, run⟩ := some many
  cases chain with
  | nil =>
    rw [List.length_nil] at size
    omega
  | cons first rest => exact ⟨io', first, first :: rest, run, size, built.nodup, built.free, built.links, built.others⟩

def twoClusters : Context := ⟨512, 1, 1, 2, 2, 2, true⟩

theorem allocate_chain_blank :
    (∃ io' first chain, fat32AllocateChain (idealEnv 2) twoClusters 2 0 blankIo = some (.ok (.ok (), first), io') ∧
        chain.length = 2 ∧ Chain (linkOf twoClusters io'.view) (some first) chain) ∧
      ∃ io', fat32AllocateChain (idealEnv 2) twoClusters 3 0 blankIo = some (.ok (.error .diskFull, 0), io') := by
  have wf : FatWellFormed twoClusters := ⟨rfl, by decide, by decide⟩
  have coherent : blankIo.Coherent := nofun
  have free : (freeClusters twoClusters blankIo.view).card = 2 := by decide
  obtain ⟨fits, -⟩ := allocate_chain_all_or_nothing wf (idealEnv_ideal 2) (by decide) coherent 2 0 (by decide)
  obtain ⟨-, full⟩ := allocate_chain_all_or_nothing wf (idealEnv_ideal 2) (by decide) coherent 3 0 (by decide)
  obtain ⟨io', first, chain, run, size, -, -, links, -⟩ := fits (by rw [free])
  obtain ⟨io'', run', -⟩ := full (by rw [free]; decide)
  exact ⟨⟨io', first, chain, run, size, links⟩, io'', run'⟩

end XSDK.Fs
