import Mathlib.Order.Interval.Finset.Nat
import XSDK.Fs.Tables

/-! The loop over a directory's entries, told from the volume it reads: which clusters it
comes to, where it stops, and that it goes on for ever when it does not. -/
namespace XSDK.Fs

open Library Prog

variable {α : Type} {env : Env} {ctx : Context} {io : Io} {cluster : Nat}

/-- What the entries of a cluster from one on make the loop do. -/
def scanFrom (ctx : Context) (visit : Visit α) (disk : Nat → Sector) (cluster : Nat) :
    Nat → Nat → Option (Except Error α)
  | 0, _ => none
  | left + 1, index =>
    match visit cluster index (entryAt ctx disk cluster index) with
    | some result => some result
    | none => scanFrom ctx visit disk cluster left (index + 1)

def scan (ctx : Context) (visit : Visit α) (disk : Nat → Sector) (cluster : Nat) : Option (Except Error α) :=
  scanFrom ctx visit disk cluster (entriesPerCluster ctx) 0

def scanResult : Option (Except Error α) → Except Error (Option α)
  | none => .ok none
  | some (.ok value) => .ok (some value)
  | some (.error e) => .error e

/-- The cluster that the loop comes to next: none when it stops at an entry of this one, when
this one is the last, or when it is no cluster at all. -/
def nextCluster (ctx : Context) (visit : Visit α) (disk : Nat → Sector) (cluster : Nat) : Option Nat :=
  if inRange ctx cluster = true ∧ scan ctx visit disk cluster = none ∧ isEoc (fatEntry ctx disk cluster) = false then
    some (fatEntry ctx disk cluster)
  else none

def scanCost (ctx : Context) : Nat := 2 * entriesPerCluster ctx + 2

variable (env) in
theorem scanCluster_acts (mounted : Mounted ctx) (known : inRange ctx cluster = true) (visit : Visit α)
    {n k : Nat} (bound : k + n ≤ entriesPerCluster ctx) (coherent : io.Coherent) :
    Acts env (scanCluster env ctx visit cluster n k) (2 * n) io
      (scanResult (scanFrom ctx visit io.view cluster n k)) (Looked io) := by
  induction n generalizing k io with
  | zero => exact .pure coherent (Looked.refl io)
  | succ n ih =>
    have split : 2 * (n + 1) = 2 + 2 * n := by omega
    rw [split, scanCluster, scanFrom]
    refine (directoryReadEntry_acts env mounted known (by omega) coherent).bind ?_
    intro io' coherent' looked
    cases decision : visit cluster k (entryAt ctx io.view cluster k) with
    | none =>
      dsimp only
      rw [← looked.view]
      exact (ih (by omega) coherent').weaken (Nat.le_refl _) fun _ h => looked.trans h
    | some result =>
      cases result with
      | ok value => exact (Acts.pure coherent' looked).weaken (by omega) fun _ h => h
      | error e => exact (Acts.fail coherent' looked).weaken (by omega) fun _ h => h

section Rounds

variable (env) {visit : Visit α} {atEnd : Nat → IoM α} {fuel : Nat} {l : List Nat} {last : Nat}

def lastStep (ctx : Context) (visit : Visit α) (atEnd : Nat → IoM α) (disk : Nat → Sector) (last : Nat) : IoM α :=
  if inRange ctx last = true then
    match scan ctx visit disk last with
    | some result => finish result
    | none => atEnd last
  else fail .corrupt

theorem last_step (mounted : Mounted ctx) (coherent : io.Coherent)
    (stop : nextCluster ctx visit io.view cluster = none) :
    Reaches env io (scanCost ctx) (walkDirectory env ctx visit atEnd (fuel + 1) cluster)
      (lastStep ctx visit atEnd io.view cluster) := by
  rw [walkDirectory, lastStep]
  cases known : inRange ctx cluster with
  | false =>
    rw [if_neg (by decide), if_neg (by decide)]
    exact (Reaches.refl coherent).weaken (Nat.zero_le _)
  | true =>
    rw [if_pos rfl, if_pos rfl]
    have scanned := scanCluster_acts env mounted known visit (n := entriesPerCluster ctx) (k := 0)
      (by omega) coherent
    cases found : scan ctx visit io.view cluster with
    | some result =>
      rw [scan] at found
      rw [found] at scanned
      cases result with
      | ok value => exact (Reaches.bind scanned _).weaken (by rw [scanCost]; omega)
      | error e => exact (Reaches.bind_error scanned _).weaken (by rw [scanCost]; omega)
    | none =>
      have eoc : isEoc (fatEntry ctx io.view cluster) = true := by
        cases eoc : isEoc (fatEntry ctx io.view cluster) with
        | true => rfl
        | false =>
          rw [nextCluster, if_pos ⟨known, found, eoc⟩] at stop
          cases stop
      rw [scan] at found
      rw [found] at scanned
      refine (Reaches.bind scanned _).trans fun io' coherent' looked => ?_
      have link := fat32ReadEntry_acts env coherent' known
      rw [looked.view] at link
      refine (Reaches.bind link _).trans (d := 0) fun io'' coherent'' _ => ?_
      rw [if_pos eoc]
      exact Reaches.refl coherent''

theorem next_step (mounted : Mounted ctx) (coherent : io.Coherent) {next : Nat}
    (go : nextCluster ctx visit io.view cluster = some next) :
    Reaches env io (scanCost ctx) (walkDirectory env ctx visit atEnd (fuel + 1) cluster)
      (walkDirectory env ctx visit atEnd fuel next) := by
  rw [nextCluster] at go
  split at go
  · next through =>
    obtain ⟨known, found, eoc⟩ := through
    cases go
    rw [walkDirectory, if_pos known]
    have scanned := scanCluster_acts env mounted known visit (n := entriesPerCluster ctx) (k := 0)
      (by omega) coherent
    rw [scan] at found
    rw [found] at scanned
    refine (Reaches.bind scanned _).trans fun io' coherent' looked => ?_
    have link := fat32ReadEntry_acts env coherent' known
    rw [looked.view] at link
    refine (Reaches.bind link _).trans (d := 0) fun io'' coherent'' _ => ?_
    rw [if_neg (by rw [eoc]; decide)]
    exact Reaches.refl coherent''
  · cases go

variable (atEnd) in
theorem walkDirectory_reaches (mounted : Mounted ctx) (coherent : io.Coherent)
    (walk : Walk (nextCluster ctx visit io.view) cluster l) (ended : l.getLast? = some last)
    (enough : l.length ≤ fuel) :
    Reaches env io (l.length * scanCost ctx) (walkDirectory env ctx visit atEnd fuel cluster)
      (lastStep ctx visit atEnd io.view last) := by
  induction l generalizing cluster fuel io with
  | nil => cases walk
  | cons c l ih =>
    obtain ⟨fuel, rfl⟩ : ∃ n, fuel = n + 1 := ⟨fuel - 1, by rw [List.length_cons] at enough; omega⟩
    rw [List.length_cons] at enough
    rw [List.length_cons, Nat.add_mul, Nat.one_mul, Nat.add_comm]
    cases walk with
    | last stop =>
      cases ended
      exact (last_step env mounted coherent stop).weaken (by omega)
    | @next _ next _ go rest =>
      refine (next_step env mounted coherent go).trans fun io' coherent' looked => ?_
      obtain ⟨tail, shape⟩ := rest.head
      rw [← looked.view]
      apply ih coherent'
      · rw [looked.view]
        exact rest
      · rw [shape] at ended ⊢
        rwa [List.getLast?_cons_cons] at ended
      · omega

/-- A walk that never stops is never left, as long as no request fails. -/
theorem walkDirectory_hangs (mounted : Mounted ctx) (ideal : env.Ideal) (coherent : io.Coherent)
    (never : ¬Ends (nextCluster ctx visit io.view) cluster) :
    walkDirectory env ctx visit atEnd fuel cluster io = none := by
  induction fuel generalizing cluster io with
  | zero => rfl
  | succ fuel ih =>
    obtain ⟨next, go, on⟩ := next_of_not_ends never
    have onward : Reaches env io _ (walkDirectory env ctx visit atEnd (fuel + 1) cluster) _ :=
      next_step env mounted coherent go
    obtain ⟨io', coherent', looked, same⟩ := onward.ideal ideal
    rw [same]
    apply ih coherent'
    rw [looked.view]
    exact on

/-- What a loop that only looks gives, by the last cluster it comes to. -/
def walkAnswer (ctx : Context) (visit : Visit α) (disk : Nat → Sector) (atEnd : Except Error α) (last : Nat) :
    Except Error α :=
  if inRange ctx last = true then (scan ctx visit disk last).getD atEnd else .error .corrupt

theorem walkDirectory_answers (mounted : Mounted ctx) (coherent : io.Coherent)
    (walk : Walk (nextCluster ctx visit io.view) cluster l) (ended : l.getLast? = some last) (enough : l.length ≤ fuel)
    (answer : Except Error α) :
    Acts env (walkDirectory env ctx visit (fun _ => finish answer) fuel cluster) (l.length * scanCost ctx) io
      (walkAnswer ctx visit io.view answer last) (Looked io) := by
  refine (walkDirectory_reaches env _ mounted coherent walk ended enough).acts (d := 0) fun io' coherent' looked => ?_
  have finishes : ∀ result : Except Error α, Acts env (finish result) 0 io' result (Looked io) := by
    intro result
    cases result with
    | ok value => exact .pure coherent' looked
    | error e => exact .fail coherent' looked
  rw [lastStep, walkAnswer]
  split
  · cases scan ctx visit io.view last with
    | some result => exact finishes result
    | none => exact finishes answer
  · exact .fail coherent' looked

end Rounds

section Clusters

variable {visit : Visit α}

def clusters (ctx : Context) : Finset Nat := Finset.Ico fat32ClusterMin (word32 (fat32ClusterMin + ctx.totalClusters))

theorem mem_clusters : cluster ∈ clusters ctx ↔ inRange ctx cluster = true := by
  rw [clusters, Finset.mem_Ico, inRange, decide_eq_true_iff]

theorem card_clusters_le (ctx : Context) : (clusters ctx).card ≤ ctx.totalClusters := by
  have bound : word32 (fat32ClusterMin + ctx.totalClusters) ≤ fat32ClusterMin + ctx.totalClusters := Nat.mod_le _ _
  rw [clusters, Nat.card_Ico]
  omega

theorem walk_length_le {l : List Nat} {disk : Nat → Sector} (walk : Walk (nextCluster ctx visit disk) cluster l) :
    l.length ≤ ctx.totalClusters + 1 := by
  have inside : ∀ a b, nextCluster ctx visit disk a = some b → a ∈ clusters ctx := by
    intro a b go
    rw [nextCluster] at go
    split at go
    · next through => exact mem_clusters.mpr through.1
    · cases go
  have short := walk.length_le inside
  have few := card_clusters_le ctx
  omega

end Clusters
end XSDK.Fs
