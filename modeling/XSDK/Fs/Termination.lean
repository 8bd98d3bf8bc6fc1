import XSDK.Fs.Directory
import XSDK.Fs.FormatMount
import XSDK.Fs.Release

/-! Which calls come back from a volume with arbitrary links: those whose loop comes to an end
mark, to an entry it looks for or to the end of the chain. The release of a chain always does. -/
namespace XSDK.Fs

open Library Prog

variable {env : Env} {ctx : Context} {io : Io}

def EndsAt {α : Type} (m : IoM α) (io : Io) (cost : Nat) : Prop :=
  ∃ r io', m io = some (r, io') ∧ io'.calls ≤ io.calls + cost

section Search

variable {start last : Nat} {name : Sfn} {l : List Nat}

/-- What a search gives, by the last cluster that it comes to. -/
def findAnswer (ctx : Context) (disk : Nat → Sector) (start : Nat) (name : Sfn) (last : Nat) : Except Error Found :=
  if inRange ctx start = true then walkAnswer ctx (findVisit name) disk (.error .notFound) last
  else .error .invalidArgument

theorem entriesPerCluster_ne_zero (mounted : Mounted ctx) : entriesPerCluster ctx ≠ 0 := by
  have positive := mounted.sectorsPerCluster
  rw [entriesPerCluster, mounted.bytesPerSector, if_neg (by simp only [sectorSize]; omega)]
  simp only [sectorSize, fat32DirectoryEntrySize]
  omega

theorem directoryFindEntry_acts (env : Env) (mounted : Mounted ctx) (coherent : io.Coherent)
    (walk : Walk (nextCluster ctx (findVisit name) io.view) start l) (ended : l.getLast? = some last)
    (enough : l.length ≤ env.fuel) :
    Acts env (directoryFindEntry env ctx start name) (l.length * scanCost ctx) io
      (findAnswer ctx io.view start name last) (Looked io) := by
  rw [directoryFindEntry, findAnswer]
  cases known : inRange ctx start with
  | false =>
    rw [if_neg (by decide)]
    exact (Acts.reject_yes rfl coherent (Looked.refl io)).weaken (Nat.zero_le _) fun _ h => h
  | true =>
    rw [if_pos rfl]
    apply Acts.reject_no (by decide)
    apply Acts.reject_no (entriesPerCluster_ne_zero mounted)
    exact walkDirectory_answers env mounted coherent walk ended enough (.error .notFound)

theorem inRange_of_never {α : Type} {visit : Visit α} {disk : Nat → Sector}
    (never : ¬Ends (nextCluster ctx visit disk) start) : inRange ctx start = true := by
  obtain ⟨next, go, _⟩ := next_of_not_ends never
  rw [nextCluster] at go
  split at go
  · next through => exact through.1
  · cases go

theorem directoryFindEntry_hangs (mounted : Mounted ctx) (ideal : env.Ideal) (coherent : io.Coherent)
    (never : ¬Ends (nextCluster ctx (findVisit name) io.view) start) :
    directoryFindEntry env ctx start name io = none := by
  rw [directoryFindEntry, reject_bind_neg _ (by rw [inRange_of_never never]; decide),
    reject_bind_neg _ (entriesPerCluster_ne_zero mounted)]
  exact walkDirectory_hangs env mounted ideal coherent never

theorem last_of_walk {α : Type} {step : α → Option α} {a : α} {l : List α} (walk : Walk step a l) :
    ∃ last, l.getLast? = some last := by
  obtain ⟨rest, rfl⟩ := walk.head
  exact ⟨_, List.getLast?_eq_getLast_of_ne_nil (List.cons_ne_nil a rest)⟩

end Search

section Paths

/-- The search in each directory that the path leads into comes to an end. -/
def PathStops (ctx : Context) (disk : Nat → Sector) : Nat → PathString → Nat → Prop
  | 0, _, _ => True
  | left + 1, cursor, cluster =>
    match pathExtractComponent cursor with
    | none => True
    | some component =>
      ∃ l last, Walk (nextCluster ctx (findVisit component.sfn) disk) cluster l ∧ l.getLast? = some last ∧
        (component.rest ≠ [] → ∀ found, findAnswer ctx disk cluster component.sfn last = .ok found →
          found.entry.isDirectory = true → isValidCluster found.entry.firstCluster = true →
          PathStops ctx disk left component.rest found.entry.firstCluster)

def searchCost (ctx : Context) : Nat := (ctx.totalClusters + 1) * scanCost ctx

variable {cursor : PathString}

theorem pathWalkFrom_ends (mounted : Mounted ctx) (enough : ctx.totalClusters + 1 ≤ env.fuel) {left cluster : Nat}
    (coherent : io.Coherent) (stops : PathStops ctx io.view left cursor cluster) :
    EndsAt (pathWalkFrom env ctx left cursor cluster) io (left * searchCost ctx) := by
  induction left generalizing io cursor cluster with
  | zero => exact ⟨_, io, rfl, by omega⟩
  | succ left ih =>
    rw [PathStops] at stops
    rw [pathWalkFrom]
    cases extracted : pathExtractComponent cursor with
    | none => exact ⟨_, io, rfl, Nat.le_add_right _ _⟩
    | some component =>
      rw [extracted] at stops
      obtain ⟨l, last, walk, ended, deeper⟩ := stops
      have short := walk_length_le walk
      have cost : l.length * scanCost ctx ≤ searchCost ctx := Nat.mul_le_mul_right _ short
      have total : (left + 1) * searchCost ctx = searchCost ctx + left * searchCost ctx := by
        rw [Nat.add_mul, Nat.one_mul, Nat.add_comm]
      obtain ⟨r, io', run, coherent', calls, outcome⟩ :=
        directoryFindEntry_acts env mounted coherent walk ended (by omega)
      dsimp only
      cases r with
      | error e => exact ⟨_, io', bind_error _ run, by omega⟩
      | ok found =>
        rw [EndsAt, bind_ok _ run]
        rcases outcome with ⟨answer, looked⟩ | ⟨⟨code, failed⟩, _⟩
        · split
          · exact ⟨_, io', rfl, by omega⟩
          · next more =>
            rw [pathEnterDirectory, Prog.bind_assoc]
            by_cases directory : found.entry.isDirectory = false
            · rw [reject_bind_pos _ directory]
              exact ⟨_, io', rfl, by omega⟩
            · rw [reject_bind_neg _ directory, Prog.bind_assoc]
              by_cases valid : isValidCluster found.entry.firstCluster = false
              · rw [reject_bind_pos _ valid]
                exact ⟨_, io', rfl, by omega⟩
              · rw [reject_bind_neg _ valid, pure_bind]
                have further := deeper more found answer.symm (by simpa using directory) (by simpa using valid)
                rw [← looked.view] at further
                obtain ⟨r, io'', run', calls'⟩ := ih coherent' further
                exact ⟨r, io'', run', by omega⟩
        · cases failed

theorem pathWalkFrom_hangs (mounted : Mounted ctx) (ideal : env.Ideal) (enough : ctx.totalClusters + 1 ≤ env.fuel)
    {left cluster : Nat} (coherent : io.Coherent)
    (never : ¬PathStops ctx io.view left cursor cluster) : pathWalkFrom env ctx left cursor cluster io = none := by
  induction left generalizing io cursor cluster with
  | zero => exact absurd trivial never
  | succ left ih =>
    rw [PathStops] at never
    rw [pathWalkFrom]
    cases extracted : pathExtractComponent cursor with
    | none =>
      rw [extracted] at never
      exact absurd trivial never
    | some component =>
      rw [extracted] at never
      dsimp only at never ⊢
      by_cases ends : Ends (nextCluster ctx (findVisit component.sfn) io.view) cluster
      · obtain ⟨l, walk⟩ := ends
        obtain ⟨last, ended⟩ := last_of_walk walk
        have short := walk_length_le walk
        obtain ⟨io', run, coherent', looked⟩ :=
          (directoryFindEntry_acts env mounted coherent walk ended (by omega)).ideal ideal
        have deeper : component.rest ≠ [] ∧ ∃ found, findAnswer ctx io.view cluster component.sfn last = .ok found ∧
            found.entry.isDirectory = true ∧ isValidCluster found.entry.firstCluster = true ∧
            ¬PathStops ctx io.view left component.rest found.entry.firstCluster := by
          by_contra no
          apply never
          refine ⟨l, last, walk, ended, fun more found answer directory valid => ?_⟩
          by_contra stuck
          exact no ⟨more, found, answer, directory, valid, stuck⟩
        obtain ⟨more, found, answer, directory, valid, stuck⟩ := deeper
        rw [answer] at run
        rw [bind_ok _ run, if_neg more, pathEnterDirectory, Prog.bind_assoc,
          reject_bind_neg _ (by rw [directory]; decide), Prog.bind_assoc, reject_bind_neg _ (by rw [valid]; decide),
          pure_bind]
        apply ih coherent'
        rw [looked.view]
        exact stuck
      · exact bind_none _ (directoryFindEntry_hangs mounted ideal coherent ends)

end Paths
section Reading

variable {left fuel cost n : Nat}

def readVisit : Visit Unit := fun _ _ entry =>
  if entry.isEnd = true then some (.ok ())
  else if entry.isFree = true ∨ entry.isLfn = true then none
  else some (.ok ())

/-- From the handle's place on, reading comes to an entry, to an end mark or to the end of the chain. -/
def ReadStops (ctx : Context) (io : Io) : Prop :=
  io.directory.isOpen = true → io.directory.isEnd = false → inRange ctx io.directory.currentCluster = true →
    scanFrom ctx readVisit io.view io.directory.currentCluster
      (entriesPerCluster ctx - io.directory.currentIndex) io.directory.currentIndex = none →
    isEoc (fatEntry ctx io.view io.directory.currentCluster) = false →
      Ends (nextCluster ctx readVisit io.view) (fatEntry ctx io.view io.directory.currentCluster)

theorem entriesPerCluster_lt (mounted : Mounted ctx) : entriesPerCluster ctx < 2 ^ 32 := by
  have positive := mounted.sectorsPerCluster
  have small := mounted.clusterSize
  rw [entriesPerCluster, mounted.bytesPerSector, if_neg (by simp only [sectorSize]; omega)]
  simp only [sectorSize, fat32DirectoryEntrySize]
  omega

/-- The round leads to the next one at another place, unless a request fails. -/
def Onward (env : Env) (ctx : Context) (io : Io) (fuel cluster index : Nat) : Prop :=
  (∃ io', io'.Coherent ∧ io'.view = io.view ∧
      io'.directory = { io.directory with currentCluster := cluster, currentIndex := index } ∧
      io'.calls ≤ io.calls + 2 ∧ directoryReadFrom env ctx (fuel + 1) io = directoryReadFrom env ctx fuel io') ∨
    (EndsAt (directoryReadFrom env ctx (fuel + 1)) io 2 ∧ ¬env.Ideal)

section Rounds

variable (env) (fuel) (coherent : io.Coherent) (on : io.directory.isEnd = false)
  (known : inRange ctx io.directory.currentCluster = true)
include coherent on known

omit coherent known in
theorem read_at (bound : io.directory.currentIndex < entriesPerCluster ctx) :
    directoryReadFrom env ctx (fuel + 1) io =
      (directoryReadEntry env ctx io.directory.currentCluster io.directory.currentIndex >>= fun entry =>
        updateDirectory (fun directory => { directory with currentIndex := word32 (directory.currentIndex + 1) }) >>=
        fun _ =>
          if entry.isEnd = true then do
            updateDirectory fun directory => { directory with isEnd := true }
            return none
          else if entry.isFree = true ∨ entry.isLfn = true then directoryReadFrom env ctx fuel
          else return some (directoryPublicEntry entry)) io := by
  rw [directoryReadFrom, bind_ok _ (read_run _), if_neg (by rw [on]; decide), if_neg (by omega)]

theorem entry_round (mounted : Mounted ctx) (bound : io.directory.currentIndex < entriesPerCluster ctx) :
    match readVisit io.directory.currentCluster io.directory.currentIndex
      (entryAt ctx io.view io.directory.currentCluster io.directory.currentIndex) with
    | some _ => EndsAt (directoryReadFrom env ctx (fuel + 1)) io 2
    | none => Onward env ctx io fuel io.directory.currentCluster (io.directory.currentIndex + 1) := by
  have next : word32 (io.directory.currentIndex + 1) = io.directory.currentIndex + 1 :=
    word32_of_lt (by have small := entriesPerCluster_lt mounted; omega)
  obtain ⟨r, io', run, coherent', calls, outcome⟩ := directoryReadEntry_acts env mounted known bound coherent
  have shape := read_at env fuel on bound
  rcases outcome with ⟨same, looked⟩ | ⟨⟨code, failed⟩, driver⟩
  · subst same
    rw [bind_ok _ run, bind_ok _ (updateDirectory_run _ _)] at shape
    rw [readVisit]
    by_cases ended : (entryAt ctx io.view io.directory.currentCluster io.directory.currentIndex).isEnd = true
    · rw [if_pos ended] at shape ⊢
      exact ⟨_, _, shape, calls⟩
    · rw [if_neg ended] at shape ⊢
      split at shape
      · next skipped =>
        rw [if_pos skipped]
        have moved : word32 (io'.directory.currentIndex + 1) = io.directory.currentIndex + 1 := by
          rw [looked.directory, next]
        rw [moved] at shape
        refine .inl ⟨_, ?_, ?_, ?_, ?_, shape⟩
        · exact coherent'
        · exact looked.view
        · rw [← looked.directory]
        · exact calls
      · next taken =>
        rw [if_neg taken]
        exact ⟨_, _, shape, calls⟩
  · subst failed
    have failure : EndsAt (directoryReadFrom env ctx (fuel + 1)) io 2 :=
      ⟨_, io', shape.trans (bind_error _ run), calls⟩
    split
    · exact failure
    · exact .inr ⟨failure, driver⟩

omit coherent known in
theorem read_advance (behind : entriesPerCluster ctx ≤ io.directory.currentIndex) :
    directoryReadFrom env ctx (fuel + 1) io =
      (fat32ReadEntry env ctx io.directory.currentCluster >>= fun next =>
        (if isEoc next = true then updateDirectory fun directory => { directory with isEnd := true }
          else do
            reject (inRange ctx next = false) .corrupt
            updateDirectory fun directory => { directory with currentCluster := next, currentIndex := 0 }) >>=
        fun _ => directoryReadFrom env ctx fuel) io := by
  rw [directoryReadFrom, bind_ok _ (read_run _), if_neg (by rw [on]; decide), if_pos behind, directoryAdvanceCluster,
    Prog.bind_assoc, bind_ok _ (read_run _), Prog.bind_assoc]

theorem last_round (behind : entriesPerCluster ctx ≤ io.directory.currentIndex)
    (eoc : isEoc (fatEntry ctx io.view io.directory.currentCluster) = true) :
    EndsAt (directoryReadFrom env ctx (fuel + 2)) io 2 := by
  obtain ⟨r, io', run, coherent', calls, outcome⟩ := fat32ReadEntry_acts env coherent known
  rw [EndsAt, read_advance _ _ on behind]
  rcases outcome with ⟨same, looked⟩ | ⟨⟨code, failed⟩, _⟩
  · subst same
    rw [bind_ok _ run, if_pos eoc, bind_ok _ (updateDirectory_run _ _), directoryReadFrom, bind_ok _ (read_run _),
      if_pos rfl]
    exact ⟨_, _, rfl, calls⟩
  · subst failed
    exact ⟨_, io', bind_error _ run, calls⟩

theorem leaving_round (behind : entriesPerCluster ctx ≤ io.directory.currentIndex)
    (going : isEoc (fatEntry ctx io.view io.directory.currentCluster) = false)
    (outside : inRange ctx (fatEntry ctx io.view io.directory.currentCluster) = false) :
    EndsAt (directoryReadFrom env ctx (fuel + 1)) io 2 := by
  obtain ⟨r, io', run, coherent', calls, outcome⟩ := fat32ReadEntry_acts env coherent known
  rw [EndsAt, read_advance _ _ on behind]
  rcases outcome with ⟨same, looked⟩ | ⟨⟨code, failed⟩, _⟩
  · subst same
    rw [bind_ok _ run, if_neg (by rw [going]; decide), reject_bind_pos _ outside]
    exact ⟨_, io', rfl, calls⟩
  · subst failed
    exact ⟨_, io', bind_error _ run, calls⟩

theorem next_round (behind : entriesPerCluster ctx ≤ io.directory.currentIndex)
    (going : isEoc (fatEntry ctx io.view io.directory.currentCluster) = false)
    (inside : inRange ctx (fatEntry ctx io.view io.directory.currentCluster) = true) :
    Onward env ctx io fuel (fatEntry ctx io.view io.directory.currentCluster) 0 := by
  obtain ⟨r, io', run, coherent', calls, outcome⟩ := fat32ReadEntry_acts env coherent known
  have shape := read_advance env fuel on behind
  rcases outcome with ⟨same, looked⟩ | ⟨⟨code, failed⟩, driver⟩
  · subst same
    rw [bind_ok _ run, if_neg (by rw [going]; decide), reject_bind_neg _ (by rw [inside]; decide),
      bind_ok _ (updateDirectory_run _ _)] at shape
    refine .inl ⟨_, ?_, ?_, ?_, ?_, shape⟩
    · exact coherent'
    · exact looked.view
    · rw [← looked.directory]
    · exact calls
  · subst failed
    exact .inr ⟨⟨_, io', shape.trans (bind_error _ run), calls⟩, driver⟩

end Rounds

theorem EndsAt.weaken {α : Type} {m : IoM α} {cost cost' : Nat} (h : EndsAt m io cost) (more : cost ≤ cost') :
    EndsAt m io cost' := by
  obtain ⟨r, io', run, calls⟩ := h
  exact ⟨r, io', run, by omega⟩

theorem scan_rounds (mounted : Mounted ctx) {c : Nat} (coherent : io.Coherent) (on : io.directory.isEnd = false)
    (known : inRange ctx io.directory.currentCluster = true)
    (place : io.directory.currentIndex + left = entriesPerCluster ctx)
    (rest : scanFrom ctx readVisit io.view io.directory.currentCluster left io.directory.currentIndex = none →
      ∀ io', io'.Coherent → io'.view = io.view →
        io'.directory = { io.directory with currentIndex := entriesPerCluster ctx } →
        EndsAt (directoryReadFrom env ctx (fuel + 1)) io' c) :
    EndsAt (directoryReadFrom env ctx (fuel + 1 + left)) io (2 * left + c) := by
  induction left generalizing io with
  | zero =>
    rw [Nat.mul_zero, Nat.zero_add]
    apply rest rfl io coherent rfl
    rw [← place, Nat.add_zero]
  | succ left ih =>
    have round := entry_round env (fuel + 1 + left) coherent on known mounted (by omega)
    rw [scanFrom] at rest
    have more : fuel + 1 + (left + 1) = fuel + 1 + left + 1 := by omega
    rw [more]
    cases decision : readVisit io.directory.currentCluster io.directory.currentIndex
        (entryAt ctx io.view io.directory.currentCluster io.directory.currentIndex) with
    | some _ =>
      rw [decision] at round
      exact round.weaken (by omega)
    | none =>
      rw [decision] at round rest
      rcases round with ⟨io', coherent', same, moved, calls, shape⟩ | ⟨ended, _⟩
      · have later : EndsAt (directoryReadFrom env ctx (fuel + 1 + left)) io' (2 * left + c) := by
          apply ih coherent'
          · rw [moved]
            exact on
          · rw [moved]
            exact known
          · rw [moved]
            dsimp only
            omega
          · rw [moved, same]
            exact rest
        obtain ⟨r, io'', run, calls'⟩ := later
        exact ⟨r, io'', shape.trans run, by omega⟩
      · exact ended.weaken (by omega)

theorem behind_rounds {cost : Nat} (coherent : io.Coherent) (on : io.directory.isEnd = false)
    (known : inRange ctx io.directory.currentCluster = true)
    (behind : entriesPerCluster ctx ≤ io.directory.currentIndex)
    (rest : isEoc (fatEntry ctx io.view io.directory.currentCluster) = false →
      inRange ctx (fatEntry ctx io.view io.directory.currentCluster) = true →
      ∀ io', io'.Coherent → io'.view = io.view →
        io'.directory = { io.directory with
          currentCluster := fatEntry ctx io.view io.directory.currentCluster, currentIndex := 0 } →
        EndsAt (directoryReadFrom env ctx (fuel + 1)) io' cost) :
    EndsAt (directoryReadFrom env ctx (fuel + 2)) io (2 + cost) := by
  cases eoc : isEoc (fatEntry ctx io.view io.directory.currentCluster) with
  | true => exact (last_round _ _ coherent on known behind eoc).weaken (by omega)
  | false =>
    cases inside : inRange ctx (fatEntry ctx io.view io.directory.currentCluster) with
    | false => exact (leaving_round _ _ coherent on known behind eoc inside).weaken (by omega)
    | true =>
      rcases next_round env (fuel + 1) coherent on known behind eoc inside with
        ⟨io', coherent', same, moved, calls, shape⟩ | ⟨ended, _⟩
      · obtain ⟨r, io'', run, calls'⟩ := rest eoc inside io' coherent' same moved
        exact ⟨r, io'', shape.trans run, by omega⟩
      · exact ended.weaken (by omega)

def readRounds (ctx : Context) : Nat := entriesPerCluster ctx + 1
def readCost (ctx : Context) : Nat := 2 * entriesPerCluster ctx + 2

theorem chain_rounds (fuel : Nat) (mounted : Mounted ctx) {l : List Nat} (coherent : io.Coherent)
    (on : io.directory.isEnd = false)
    (known : inRange ctx io.directory.currentCluster = true) (start : io.directory.currentIndex = 0)
    (walk : Walk (nextCluster ctx readVisit io.view) io.directory.currentCluster l) :
    EndsAt (directoryReadFrom env ctx (l.length * readRounds ctx + fuel + 1)) io (l.length * readCost ctx) := by
  induction l generalizing io with
  | nil => cases walk
  | cons c l ih =>
    have rounds : (c :: l).length * readRounds ctx + fuel + 1 =
        (l.length * readRounds ctx + fuel) + 1 + 1 + entriesPerCluster ctx := by
      rw [List.length_cons, Nat.add_mul, Nat.one_mul, readRounds]
      omega
    have cost : (c :: l).length * readCost ctx = 2 * entriesPerCluster ctx + (2 + l.length * readCost ctx) := by
      rw [List.length_cons, Nat.add_mul, Nat.one_mul, readCost]
      omega
    rw [rounds, cost]
    apply scan_rounds mounted coherent on known (by omega)
    intro through io' coherent' same moved
    rw [start] at through
    apply behind_rounds coherent'
    · rw [moved]; exact on
    · rw [moved]; exact known
    · rw [moved]
    rw [moved, same]
    intro eoc inside io'' coherent'' same' moved'
    have go : nextCluster ctx readVisit io.view io.directory.currentCluster =
        some (fatEntry ctx io.view io.directory.currentCluster) := by
      rw [nextCluster, if_pos ⟨known, through, eoc⟩]
    cases walk with
    | last stop => rw [stop] at go; cases go
    | @next _ next _ step rest =>
      rw [go] at step
      cases step
      apply ih coherent''
      · rw [moved']; exact on
      · rw [moved']; exact inside
      · rw [moved']
      · rw [moved', same']; exact rest

theorem outside_round (on : io.directory.isEnd = false) (outside : inRange ctx io.directory.currentCluster = false) :
    EndsAt (directoryReadFrom env ctx (fuel + 1)) io 0 := by
  by_cases behind : entriesPerCluster ctx ≤ io.directory.currentIndex
  · rw [EndsAt, read_advance _ _ on behind, fat32ReadEntry, reject_bind_pos _ outside]
    exact ⟨_, io, rfl, Nat.le_refl _⟩
  · rw [EndsAt, directoryReadFrom, bind_ok _ (read_run _), if_neg (by rw [on]; decide), if_neg behind,
      directoryReadEntry, directoryEntryLocation, reject_bind_pos _ outside]
    exact ⟨_, io, rfl, Nat.le_refl _⟩

theorem directoryReadFrom_ends (mounted : Mounted ctx) (coherent : io.Coherent) (on : io.directory.isEnd = false)
    (opened : io.directory.isOpen = true) (stops : ReadStops ctx io)
    (enough : (ctx.totalClusters + 2) * (readRounds ctx + 1) ≤ fuel) :
    EndsAt (directoryReadFrom env ctx fuel) io ((ctx.totalClusters + 2) * readCost ctx) := by
  have split : (ctx.totalClusters + 2) * readCost ctx = readCost ctx + (ctx.totalClusters + 1) * readCost ctx := by
    rw [Nat.add_mul, Nat.add_mul]
    omega
  have rounds : (ctx.totalClusters + 1) * readRounds ctx + readRounds ctx + 2 ≤ fuel := by
    rw [Nat.mul_add, Nat.add_mul] at enough
    rw [Nat.add_mul]
    omega
  cases known : inRange ctx io.directory.currentCluster with
  | false =>
    obtain ⟨k, rfl⟩ : ∃ k, fuel = k + 1 := ⟨fuel - 1, by omega⟩
    exact (outside_round on known).weaken (Nat.zero_le _)
  | true =>
    -- What follows the last entry of the handle's own cluster.
    have after : scanFrom ctx readVisit io.view io.directory.currentCluster
          (entriesPerCluster ctx - io.directory.currentIndex) io.directory.currentIndex = none →
        ∀ k, (ctx.totalClusters + 1) * readRounds ctx + 2 ≤ k → ∀ io', io'.Coherent → io'.view = io.view →
          io'.directory.isEnd = false → io'.directory.currentCluster = io.directory.currentCluster →
          entriesPerCluster ctx ≤ io'.directory.currentIndex →
          EndsAt (directoryReadFrom env ctx k) io' (2 + (ctx.totalClusters + 1) * readCost ctx) := by
      intro through k bound io' coherent' same on' place behind
      obtain ⟨k, rfl⟩ : ∃ j, k = j + 2 := ⟨k - 2, by omega⟩
      apply behind_rounds coherent' on' (by rw [place]; exact known) behind
      rw [place, same]
      intro eoc inside io'' coherent'' same' moved
      obtain ⟨l, walk⟩ := stops opened on known through eoc
      have short := walk_length_le walk
      have fewer : l.length * readRounds ctx ≤ (ctx.totalClusters + 1) * readRounds ctx := Nat.mul_le_mul_right _ short
      have cheaper : l.length * readCost ctx ≤ (ctx.totalClusters + 1) * readCost ctx := Nat.mul_le_mul_right _ short
      obtain ⟨j, more⟩ : ∃ j, k + 1 = l.length * readRounds ctx + j + 1 := ⟨k - l.length * readRounds ctx, by omega⟩
      rw [more]
      refine (chain_rounds j mounted (l := l) coherent'' ?_ ?_ ?_ ?_).weaken cheaper
      · rw [moved]; exact on'
      · rw [moved]; exact inside
      · rw [moved]
      · rw [moved, same']; exact walk
    rw [split]
    by_cases behind : entriesPerCluster ctx ≤ io.directory.currentIndex
    · have none : entriesPerCluster ctx - io.directory.currentIndex = 0 := by omega
      refine (after (by rw [none]; rfl) fuel (by omega) io coherent rfl on rfl behind).weaken ?_
      rw [readCost]
      omega
    · obtain ⟨k, shape⟩ : ∃ k, fuel = k + 1 + (entriesPerCluster ctx - io.directory.currentIndex) :=
        ⟨fuel - 1 - (entriesPerCluster ctx - io.directory.currentIndex), by rw [readRounds] at rounds; omega⟩
      rw [shape]
      refine (scan_rounds mounted (c := 2 + (ctx.totalClusters + 1) * readCost ctx) coherent on known (by omega)
        ?_).weaken ?_
      · intro through io' coherent' same moved
        apply after through (k + 1) (by rw [readRounds] at rounds ⊢; omega) io' coherent' same
        · rw [moved]; exact on
        · rw [moved]
        · rw [moved]
      · rw [readCost]
        omega

theorem directoryReadFrom_hangs (mounted : Mounted ctx) (ideal : env.Ideal) (coherent : io.Coherent)
    (on : io.directory.isEnd = false) (known : inRange ctx io.directory.currentCluster = true)
    (through : scanFrom ctx readVisit io.view io.directory.currentCluster
      (entriesPerCluster ctx - io.directory.currentIndex) io.directory.currentIndex = none)
    (going : isEoc (fatEntry ctx io.view io.directory.currentCluster) = false)
    (never : ¬Ends (nextCluster ctx readVisit io.view) (fatEntry ctx io.view io.directory.currentCluster)) :
    directoryReadFrom env ctx fuel io = none := by
  induction fuel generalizing io with
  | zero => rfl
  | succ fuel ih =>
    by_cases behind : entriesPerCluster ctx ≤ io.directory.currentIndex
    · obtain ⟨next, go, on'⟩ := next_of_not_ends never
      rw [nextCluster] at go
      split at go
      · next passed =>
        obtain ⟨inside, scanned, eoc⟩ := passed
        cases go
        rcases next_round env fuel coherent on known behind going inside with
          ⟨io', coherent', same, moved, _, shape⟩ | ⟨_, driver⟩
        · rw [shape]
          apply ih coherent'
          · rw [moved]; exact on
          · rw [moved]; exact inside
          · rw [moved, same]; exact scanned
          · rw [moved, same]; exact eoc
          · rw [moved, same]; exact on'
        · exact absurd ideal driver
      · cases go
    · obtain ⟨left, count⟩ : ∃ left, entriesPerCluster ctx - io.directory.currentIndex = left + 1 :=
        ⟨entriesPerCluster ctx - io.directory.currentIndex - 1, by omega⟩
      rw [count, scanFrom] at through
      have round := entry_round env fuel coherent on known mounted (by omega)
      cases decision : readVisit io.directory.currentCluster io.directory.currentIndex
          (entryAt ctx io.view io.directory.currentCluster io.directory.currentIndex) with
      | some result => rw [decision] at through; cases through
      | none =>
        rw [decision] at through round
        rcases round with ⟨io', coherent', same, moved, _, shape⟩ | ⟨_, driver⟩
        · rw [shape]
          apply ih coherent'
          · rw [moved]; exact on
          · rw [moved]; exact known
          · have rest : entriesPerCluster ctx - (io.directory.currentIndex + 1) = left := by omega
            rw [moved, same]
            dsimp only
            rw [rest]
            exact through
          · rw [moved, same]; exact going
          · rw [moved, same]; exact never
        · exact absurd ideal driver

end Reading


/-- The calls that follow the links of a directory or of a chain. -/
inductive ChainCall where
  | findEntry (start : Nat) (name : Sfn)
  | findFreeEntry (start : Nat)
  | pathWalk (path : PathString)
  | directoryRead
  | directoryIsEmpty (start : Nat)
  | volumeFindLabel
  | releaseChain (first : Nat)

namespace ChainCall

def run (env : Env) (ctx : Context) : ChainCall → IoM Unit
  | findEntry start name => do let _ ← directoryFindEntry env ctx start name
  | findFreeEntry start => do let _ ← directoryFindFreeEntry env ctx start
  | pathWalk path => do let _ ← Fs.pathWalk env ctx path
  | directoryRead => do let _ ← Fs.directoryRead env ctx
  | directoryIsEmpty start => do let _ ← Fs.directoryIsEmpty env ctx start
  | volumeFindLabel => do let _ ← Fs.volumeFindLabel env ctx
  | releaseChain first => fat32ReleaseChain env ctx first

/-- The clusters that the call comes to, told from the volume as it is before the call, have a
last one. -/
def Stops (ctx : Context) (io : Io) : ChainCall → Prop
  | findEntry start name => Ends (nextCluster ctx (findVisit name) io.view) start
  | findFreeEntry start => Ends (nextCluster ctx freeVisit io.view) start
  | pathWalk path =>
    pathHasMoreComponents path = true →
      PathStops ctx io.view path.length (skipSeparators path) ctx.rootDirCluster
  | directoryRead => ReadStops ctx io
  | directoryIsEmpty start => Ends (nextCluster ctx emptyVisit io.view) start
  | volumeFindLabel => Ends (nextCluster ctx labelVisit io.view) ctx.rootDirCluster
  | releaseChain _ => True

/-- A bound on the requests, from the number of clusters and their size; a path has a search for
each of its names. -/
def callBound (ctx : Context) : ChainCall → Nat
  | findFreeEntry _ => searchCost ctx + extendCost ctx
  | pathWalk path => path.length * searchCost ctx
  | directoryRead => (ctx.totalClusters + 2) * readCost ctx
  | releaseChain _ => releaseCost ctx
  | _ => searchCost ctx

def roundBound (ctx : Context) : Nat := (ctx.totalClusters + 2) * (readRounds ctx + 1)

/-- Whatever the driver does, the call returns after a bounded number of its calls. -/
def Bounded (ctx : Context) (io : Io) (call : ChainCall) : Prop :=
  ∀ env : Env, roundBound ctx ≤ env.fuel → EndsAt (call.run env ctx) io (call.callBound ctx)

end ChainCall

section Calls

variable {α : Type} {visit : Visit α} {atEnd : Nat → IoM α} {start : Nat}

theorem EndsAt.discard {m : IoM α} {cost : Nat} (h : EndsAt m io cost) : EndsAt (m >>= fun _ => pure ()) io cost := by
  obtain ⟨r, io', run, calls⟩ := h
  cases r with
  | ok value => exact ⟨.ok (), io', bind_ok _ run, calls⟩
  | error e => exact ⟨.error e, io', bind_error _ run, calls⟩

theorem roundBound_le (ctx : Context) : ctx.totalClusters + 2 ≤ ChainCall.roundBound ctx :=
  Nat.le_mul_of_pos_right _ (Nat.succ_pos _)

theorem walkDirectory_ends (mounted : Mounted ctx) (coherent : io.Coherent) {c : Nat}
    (ends : Ends (nextCluster ctx visit io.view) start) (enough : ctx.totalClusters + 1 ≤ env.fuel)
    (close : ∀ last io', io'.Coherent → EndsAt (atEnd last) io' c) :
    EndsAt (walkDirectory env ctx visit atEnd env.fuel start) io (searchCost ctx + c) := by
  obtain ⟨l, walk⟩ := ends
  obtain ⟨last, ended⟩ := last_of_walk walk
  have short := walk_length_le walk
  have cheap : l.length * scanCost ctx ≤ searchCost ctx := Nat.mul_le_mul_right _ short
  obtain ⟨io', coherent', calls, outcome⟩ :=
    walkDirectory_reaches env atEnd mounted coherent walk ended (by omega : l.length ≤ env.fuel)
  rcases outcome with ⟨looked, same⟩ | ⟨⟨code, failed⟩, _⟩
  · rw [EndsAt, same, lastStep]
    split
    · cases scan ctx visit io.view last with
      | some result => cases result <;> exact ⟨_, io', rfl, by omega⟩
      | none =>
        obtain ⟨r, io'', run, calls'⟩ := close last io' coherent'
        exact ⟨r, io'', run, by omega⟩
    · exact ⟨_, io', rfl, by omega⟩
  · exact ⟨_, io', failed, by omega⟩

theorem looks_end (answer : Except Error α) (mounted : Mounted ctx) (coherent : io.Coherent)
    (ends : Ends (nextCluster ctx visit io.view) start) (enough : ctx.totalClusters + 1 ≤ env.fuel) :
    EndsAt (walkDirectory env ctx visit (fun _ => finish answer) env.fuel start) io (searchCost ctx) :=
  walkDirectory_ends (c := 0) mounted coherent ends enough
    fun _ io' _ => by cases answer <;> exact ⟨_, io', rfl, Nat.le_refl _⟩

end Calls

theorem chain_call_ends (mounted : Mounted ctx) (coherent : io.Coherent) (call : ChainCall)
    (stops : call.Stops ctx io) :
    call.Bounded ctx io := by
  intro env fuel
  have enough : ctx.totalClusters + 2 ≤ env.fuel := Nat.le_trans (roundBound_le ctx) fuel
  have full := entriesPerCluster_ne_zero mounted
  cases call with
  | findEntry start name =>
    apply EndsAt.discard
    rw [directoryFindEntry]
    by_cases outside : inRange ctx start = false
    · rw [reject_bind_pos _ outside]
      exact ⟨_, io, rfl, Nat.le_add_right _ _⟩
    · rw [reject_bind_neg _ outside, reject_bind_neg _ full]
      exact looks_end (.error .notFound) mounted coherent stops (by omega)
  | findFreeEntry start =>
    apply EndsAt.discard
    rw [directoryFindFreeEntry]
    by_cases outside : inRange ctx start = false
    · rw [reject_bind_pos _ outside]
      exact ⟨_, io, rfl, Nat.le_add_right _ _⟩
    · rw [reject_bind_neg _ outside, reject_bind_neg _ full]
      apply walkDirectory_ends mounted coherent stops (by omega)
      intro last io' coherent'
      obtain ⟨r, io'', run, _, calls⟩ := directoryExtendChain_within mounted enough io' coherent'
      exact ⟨r, io'', run, calls⟩
  | pathWalk path =>
    apply EndsAt.discard
    rw [pathWalk, reject_bind_neg _ (by rw [mounted.mounted]; decide)]
    cases more : pathHasMoreComponents path with
    | false =>
      rw [reject_bind_pos _ rfl]
      exact ⟨_, io, rfl, Nat.le_add_right _ _⟩
    | true =>
      rw [reject_bind_neg _ (by decide)]
      exact pathWalkFrom_ends mounted (by omega) coherent (stops more)
  | directoryRead =>
    apply EndsAt.discard
    rw [directoryRead, EndsAt, bind_ok _ (read_run _)]
    by_cases closed : io.directory.isOpen = false
    · rw [reject_bind_pos _ closed]
      exact ⟨_, io, rfl, Nat.le_add_right _ _⟩
    · rw [reject_bind_neg _ closed]
      by_cases ended : io.directory.isEnd = true
      · rw [if_pos ended]
        exact ⟨_, io, rfl, Nat.le_add_right _ _⟩
      · rw [if_neg ended, reject_bind_neg _ full]
        exact directoryReadFrom_ends mounted coherent (by simpa using ended) (by simpa using closed) stops fuel
  | directoryIsEmpty start =>
    apply EndsAt.discard
    rw [directoryIsEmpty, reject_bind_neg _ full]
    exact looks_end (.ok true) mounted coherent stops (by omega)
  | volumeFindLabel =>
    apply EndsAt.discard
    rw [volumeFindLabel, if_neg full]
    exact looks_end (.ok []) mounted coherent stops (by omega)
  | releaseChain first =>
    obtain ⟨r, io', run, _, calls⟩ := fat32ReleaseChain_within mounted enough first io coherent
    exact ⟨r, io', run, calls⟩

theorem chain_call_hangs (env : Env) (mounted : Mounted ctx) (ideal : env.Ideal)
    (enough : ctx.totalClusters + 1 ≤ env.fuel)
    (coherent : io.Coherent) (call : ChainCall) (never : ¬call.Stops ctx io) : call.run env ctx io = none := by
  have full := entriesPerCluster_ne_zero mounted
  cases call with
  | findEntry start name => exact bind_none _ (directoryFindEntry_hangs mounted ideal coherent never)
  | findFreeEntry start =>
    apply bind_none
    rw [directoryFindFreeEntry, reject_bind_neg _ (by rw [inRange_of_never never]; decide), reject_bind_neg _ full]
    exact walkDirectory_hangs env mounted ideal coherent never
  | pathWalk path =>
    apply bind_none
    have both : pathHasMoreComponents path = true ∧
        ¬PathStops ctx io.view path.length (skipSeparators path) ctx.rootDirCluster := Classical.not_imp.mp never
    rw [pathWalk, reject_bind_neg _ (by rw [mounted.mounted]; decide), reject_bind_neg _ (by rw [both.1]; decide)]
    exact pathWalkFrom_hangs mounted ideal enough coherent both.2
  | directoryRead =>
    apply bind_none
    simp only [ChainCall.Stops, ReadStops, Classical.not_imp] at never
    obtain ⟨opened, on, known, through, going, never⟩ := never
    rw [directoryRead, bind_ok _ (read_run _), reject_bind_neg _ (by rw [opened]; decide), if_neg (by rw [on]; decide),
      reject_bind_neg _ full]
    exact directoryReadFrom_hangs mounted ideal coherent on known through going never
  | directoryIsEmpty start =>
    apply bind_none
    rw [directoryIsEmpty, reject_bind_neg _ full]
    exact walkDirectory_hangs env mounted ideal coherent never
  | volumeFindLabel =>
    apply bind_none
    rw [volumeFindLabel, if_neg full]
    exact walkDirectory_hangs env mounted ideal coherent never
  | releaseChain first => exact absurd trivial never

/-- On every mounted volume, whatever its links and entries are, a call returns after a bounded
number of the driver's calls exactly when the clusters it comes to have a last one. -/
theorem chain_calls_bounded {mounting : Env} {io₀ io₁ : Io} (mounted : mount mounting io₀ = some (.ok ctx, io₁))
    (coherent : io.Coherent) (call : ChainCall) : call.Bounded ctx io ↔ call.Stops ctx io := by
  have checked := mount_mounted mounted
  constructor
  · intro bounded
    by_contra never
    have rounds := roundBound_le ctx
    obtain ⟨r, io', run, _⟩ := bounded (idealEnv (ChainCall.roundBound ctx)) (Nat.le_refl _)
    have hung := chain_call_hangs (idealEnv (ChainCall.roundBound ctx)) checked (idealEnv_ideal _)
      (Nat.le_trans (Nat.le_succ _) rounds) coherent call never
    rw [hung] at run
    cases run
  · exact chain_call_ends checked coherent call

variable (link : Nat) (byte : UInt8)

/-- A disk of ten sectors: its boot sector, one table, in which the root's cluster leads to
`link`, and this byte in every place of the root directory. -/
def smallDisk : Nat → Sector
  | 0 => formatBootSector (formatConfigDefault 10) ⟨1, 2, 8⟩
  | 1 => writeLE32 zeroSector 8 link
  | 2 => fun _ => byte
  | _ => zeroSector

def smallIo : Io := { blankIo with disk := smallDisk link byte }

def smallContext : Context := formatContext (formatConfigDefault 10) ⟨1, 2, 8⟩

theorem smallDisk_mounts : ∃ io', mount (idealEnv 0) (smallIo link byte) = some (.ok smallContext, io') := by
  have valid : Validated (formatConfigDefault 10) := formatValidateConfig_validated (by decide)
  have solved : formatResolveLayout (formatConfigDefault 10) = some ⟨1, 2, 8⟩ := by decide
  have resolved := (formatResolveLayout_resolved solved).1
  exact mount_formatted valid resolved (resolved.exact_of_fits valid (by decide)) (by decide) rfl rfl

theorem smallIo_coherent : (smallIo link byte).Coherent := by
  intro valid
  cases valid

/-- An empty root directory is searched to its end mark. -/
theorem chain_calls_bounded_sample : ChainCall.volumeFindLabel.Bounded smallContext (smallIo fat32EocMin 0) :=
  have ⟨_, mounted⟩ := smallDisk_mounts fat32EocMin 0
  (chain_calls_bounded mounted (smallIo_coherent fat32EocMin 0) _).mpr (Ends.of_stop rfl)

/-- A root directory of deleted entries whose only cluster leads to itself is searched for ever. -/
theorem search_never_ends :
    ∃ (mounting : Env) (ctx : Context) (io io₁ : Io) (call : ChainCall),
      mount mounting io = some (.ok ctx, io₁) ∧ io.Coherent ∧ ¬call.Bounded ctx io := by
  obtain ⟨io₁, mounted⟩ := smallDisk_mounts 2 0xE5
  have coherent := smallIo_coherent 2 0xE5
  have loop : nextCluster smallContext (findVisit fun _ => 0x20) (smallIo 2 0xE5).view 2 = some 2 := rfl
  refine ⟨idealEnv 0, smallContext, smallIo 2 0xE5, _, .findEntry 2 fun _ => 0x20, mounted, coherent, fun bounded => ?_⟩
  obtain ⟨r, io', run, _⟩ := bounded (idealEnv (ChainCall.roundBound smallContext)) (Nat.le_refl _)
  have hung := chain_call_hangs (idealEnv (ChainCall.roundBound smallContext)) (mount_mounted mounted)
    (idealEnv_ideal _) (by decide) coherent (.findEntry 2 fun _ => 0x20) (not_ends_of_loop loop)
  rw [hung] at run
  cases run

end XSDK.Fs
