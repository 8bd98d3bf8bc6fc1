import XSDK.Fs.DirectoryReads
import XSDK.Fs.ReadOnly

/-! The four loops over a directory's entries: reading it through a handle, finding a name,
asking whether it is empty, and finding room for an entry. -/
namespace XSDK.Fs

open Library Prog

variable {env : Env} {ctx : Context} {io io' : Io} {disk : Nat → Sector} {start : Nat} {l : List Nat}

/- Opening a directory. -/

/-- The volume as it was, with nothing wrong in the cache. -/
def Seen (disk : Nat → Sector) (io : Io) : Prop := io.Coherent ∧ io.view = disk

section Looking

variable (ideal : env.Ideal)
include ideal

theorem cacheRead_seen (sector : Nat) : Keeps (Seen disk) (cacheRead env sector) := by
  rintro io ⟨coherent, rfl⟩ r io' run
  obtain ⟨io₁, ran, coherent', fetched⟩ := (cacheRead_acts env coherent sector).ideal ideal
  rw [run] at ran
  cases ran
  exact ⟨coherent', fetched.view⟩

theorem directoryStart_seen (path : PathString) : Keeps (Seen disk) (directoryStart env ctx path) :=
  Looks.start ⟨cacheRead_seen ideal, fun _ => .modify fun _ seen => seen⟩ path

end Looking

/-- A handle that has just been opened on a directory of the volume. -/
structure OpenedOn (disk : Nat → Sector) (start : Nat) (io : Io) : Prop where
  seen : Seen disk io
  directory : io.directory = ⟨start, start, 0, true, false⟩

theorem directoryOpen_opened (ideal : env.Ideal) {path : PathString}
    (run : directoryOpen env ctx path io = some (.ok (), io')) :
    ∃ start, inRange ctx start = true ∧ OpenedOn io.disk start io' := by
  obtain ⟨_, _, passed, run⟩ := of_bind_ok run
  rw [reject] at passed
  split at passed
  · cases passed
  cases passed
  obtain ⟨_, _, closed, run⟩ := of_bind_ok run
  cases closed
  obtain ⟨_, _, cleared, run⟩ := of_bind_ok run
  cases cleared
  obtain ⟨start, io₁, found, run⟩ := of_bind_ok run
  have seen : Seen io.disk io₁ := by
    refine (directoryStart_seen ideal path).always ⟨?_, rfl⟩ found
    intro valid
    cases valid
  obtain ⟨_, _, passed, run⟩ := of_bind_ok run
  rw [reject] at passed
  split at passed
  · cases passed
  · next inside =>
    cases passed
    cases run
    exact ⟨start, by simpa using inside, seen, rfl⟩

/- Making room. -/

def Blanked (sector : Nat) (io : Io) : Prop := io.cache.buffer = zeroSector ∧ io.disk sector = zeroSector

theorem overwriteSector_blanks (sector : Nat) {P : Io → Prop}
    (buffer : ∀ io, P io → io.cache.buffer = zeroSector) {x : Nat}
    (here : ∀ io, P io → x = sector ∨ io.disk x = zeroSector) :
    Triple P (overwriteSector env sector) (fun _ io => Blanked x io ∧ Seen io.disk io) fun _ _ => True := by
  refine .bind (R := fun _ io => io.cache.buffer = zeroSector ∧ (x = sector ∨ io.disk x = zeroSector))
    (.modify fun io hp => ⟨buffer io hp, here io hp⟩) fun _ => ?_
  refine .bind (R := fun _ io => io.cache.isValid = true ∧ io.cache.isDirty = true ∧ io.cache.sector = sector ∧
      io.cache.buffer = zeroSector ∧ (x = sector ∨ io.disk x = zeroSector))
    (.modify fun io hp => ⟨rfl, rfl, rfl, hp⟩) fun _ => ?_
  rintro io ⟨valid, dirty, place, zeros, zeroed⟩ r io' run
  have coherent : io.Coherent := by
    intro _ clean
    rw [dirty] at clean
    cases clean
  obtain ⟨r₁, io₁, ran, coherent', -, outcome⟩ := cacheWrite_acts env coherent
  rw [run] at ran
  cases ran
  rcases outcome with ⟨rfl, flushed⟩ | ⟨⟨code, rfl⟩, -⟩
  · have view := view_of_valid valid
    refine ⟨⟨flushed.cache.2.2.trans zeros, ?_⟩, coherent', flushed.view.trans flushed.disk.symm⟩
    rw [flushed.disk, view, place, zeros]
    by_cases same : x = sector
    · rw [same, Function.update_self]
    · rw [Function.update_of_ne same]
      exact zeroed.resolve_left same
  · trivial

theorem zeroNewCluster_blanks (mounted : Mounted ctx) (cluster : Nat) :
    Triple (fun _ => True) (zeroNewCluster env ctx cluster)
      (fun _ io => Blanked (entrySector ctx cluster 0) io ∧ Seen io.disk io) fun _ _ => True := by
  have first : entrySector ctx cluster 0 = word32 (clusterToSector ctx cluster + 0) := by
    rw [entrySector, Nat.zero_div]
  obtain ⟨n, size⟩ : ∃ n, ctx.sectorsPerCluster = n + 1 :=
    ⟨ctx.sectorsPerCluster - 1, by have positive := mounted.sectorsPerCluster; omega⟩
  refine .bind (R := fun _ io => io.cache.buffer = zeroSector) (.modify fun _ _ => rfl) fun _ => ?_
  rw [size, forEach]
  refine .bind (overwriteSector_blanks _ (fun _ zeros => zeros) fun _ _ => .inl first) fun _ => ?_
  have rounds : ∀ k, Triple (fun io => Blanked (entrySector ctx cluster 0) io ∧ Seen io.disk io)
      (forEach (fun index => overwriteSector env (word32 (clusterToSector ctx cluster + index))) n k)
      (fun _ io => Blanked (entrySector ctx cluster 0) io ∧ Seen io.disk io) fun _ _ => True := by
    intro k
    exact Triple.forEach (I := fun _ io => Blanked (entrySector ctx cluster 0) io ∧ Seen io.disk io) fun j _ _ =>
      overwriteSector_blanks _ (fun _ blanked => blanked.1.1) fun _ blanked => .inr blanked.1.2
  exact rounds _

theorem kind_zeros {cluster : Nat} (zeros : disk (entrySector ctx cluster 0) = zeroSector) :
    (entryAt ctx disk cluster 0).kind = .endMark := by
  apply isEnd_iff.mp
  rw [DirectoryEntry.isEnd, entryAt, zeros]
  rfl

variable {entry : DirectoryEntry} {slot : Nat × Nat}

theorem directoryExtendChain_ok (geometry : Geometry ctx) (ideal : env.Ideal) {tail : Nat}
    (seen : Seen disk io) (known : inRange ctx tail = true)
    (run : directoryExtendChain env ctx tail io = some (.ok slot, io')) :
    slot.1 ∈ freeClusters ctx disk ∧ slot.2 = 0 ∧ (entryAt ctx io'.view slot.1 slot.2).kind = .endMark := by
  obtain ⟨coherent, rfl⟩ := seen
  obtain ⟨cluster, io₁, allocated, run⟩ := of_bind_ok run
  have free : cluster ∈ freeClusters ctx io.view := by
    rcases allocateCluster_runs geometry.fatWellFormed ideal coherent with ⟨c, io₂, free, ran, -⟩ | ⟨-, io₂, ran, -⟩
    · rw [allocated] at ran
      cases ran
      exact free
    · rw [allocated] at ran
      cases ran
  obtain ⟨_, io₂, zeroed, run⟩ := of_bind_ok run
  have inside := (mem_freeClusters.mp free).1
  have zeroing := of_onError_ok zeroed
  rw [directoryZeroCluster, reject_bind_neg _ (by rw [inside]; decide)] at zeroing
  obtain ⟨blanked, coherent₂, view₂⟩ := zeroNewCluster_blanks geometry.toMounted cluster io₁ trivial _ _ zeroing
  obtain ⟨_, io₃, linked, run⟩ := of_bind_ok run
  obtain ⟨io₄, ran, coherent₃, written, -⟩ := (fat32WriteEntry_acts env coherent₂ known cluster).ideal ideal
  rw [of_onError_ok linked] at ran
  cases ran
  obtain ⟨_, io₅, flushed, run⟩ := of_bind_ok run
  obtain ⟨io₆, ran, -, kept⟩ := (cacheWrite_acts env coherent₃).ideal ideal
  rw [of_onError_ok flushed] at ran
  cases ran
  cases run
  refine ⟨free, rfl, kind_zeros ?_⟩
  have heap : ctx.clusterHeapStart ≤ entrySector ctx cluster 0 := by
    have positive := geometry.sectorsPerCluster
    have entries := geometry.entriesPerCluster_eq
    rw [(geometry.entrySector_eq inside (by omega)).1, geometry.clusterToSector_eq inside]
    omega
  rw [kept.view, written, writeFat_data geometry known _ _ heap, view₂]
  exact blanked.2

theorem directoryFindFreeEntry_ok (geometry : Geometry ctx) (ideal : env.Ideal) {c : Nat} (seen : Seen disk io)
    (threaded : Threaded ctx disk (c :: l)) (enough : l.length < env.fuel)
    (run : directoryFindFreeEntry env ctx c io = some (.ok slot, io')) :
    (∃ s ∈ slots ctx disk (c :: l), slot = (s.cluster, s.index) ∧ (s.entry.kind = .endMark ∨ s.entry.kind = .deleted)) ∨
      slot.1 ∉ c :: l ∧ slot.2 = 0 ∧ (entryAt ctx io'.view slot.1 slot.2).kind = .endMark := by
  obtain ⟨coherent, rfl⟩ := seen
  have known := threaded.known c List.mem_cons_self
  rw [directoryFindFreeEntry, reject_bind_neg _ (by rw [known]; decide),
    reject_bind_neg _ (entriesPerCluster_ne_zero geometry.toMounted)] at run
  obtain ⟨io₁, coherent₁, looked, same⟩ :=
    (walkDirectory_slots geometry.toMounted freeVisit (directoryExtendChain env ctx) coherent threaded enough).ideal ideal
  rw [same] at run
  cases found : (slots ctx io.view (c :: l)).findSome? (visitSlot freeVisit) with
  | some result =>
    obtain ⟨s, mem, rfl, vacant⟩ := free_answer found
    rw [found] at run
    cases run
    refine .inl ⟨s, mem, rfl, ?_⟩
    rcases kind_cases s.entry with ⟨kind, -⟩ | ⟨kind, -⟩ | ⟨-, going, taken, -⟩ | ⟨-, going, plain⟩
    · exact .inl kind
    · exact .inr kind
    · rw [going, taken] at vacant
      exact absurd vacant (by decide)
    · rw [going] at vacant
      exact absurd (.inl (vacant.resolve_left (by decide))) plain
  | none =>
    rw [found] at run
    have last := threaded.known _ (List.getLast_mem (List.cons_ne_nil c l))
    obtain ⟨free, first, ended⟩ := directoryExtendChain_ok geometry ideal ⟨coherent₁, looked.view⟩ last run
    refine .inr ⟨fun mem => ?_, first, ended⟩
    exact threaded.not_free geometry.fatWellFormed mem (mem_freeClusters.mp free).2

/- The four together. -/

/-- A directory as it may be found on a volume: a chain of clusters whose live entries have
different names, each of which a path can have. -/
structure DirectoryOn (ctx : Context) (disk : Nat → Sector) (start : Nat) (l : List Nat) : Prop where
  threaded : Threaded ctx disk (start :: l)
  named : ∀ s ∈ used (slots ctx disk (start :: l)), s.entry.kind = .live → IsSfn s.entry.name
  distinct : (((used (slots ctx disk (start :: l))).filter fun s => decide (s.entry.kind = .live)).map
    fun s => s.entry.name).Nodup

/-- The loops agree on what the directory lists. -/
structure Agree (env : Env) (ctx : Context) (disk : Nat → Sector) (start : Nat) (l : List Nat) : Prop where
  opened : ∀ path io io', io.disk = disk → directoryOpen env ctx path io = some (.ok (), io') →
    io'.directory.startCluster = start → OpenedOn disk start io'
  read : ∀ io, OpenedOn disk start io →
    Lists env ctx io ((listing (slots ctx disk (start :: l))).map fun s => directoryPublicEntry s.entry)
  find : ∀ io name, Seen disk io → IsSfn name → ∃ r io', directoryFindEntry env ctx start name io = some (r, io') ∧
    ∀ found, r = .ok found ↔
      found ∈ listing (slots ctx disk (start :: l)) ∧ found.entry.kind = .live ∧ found.entry.name = name
  empty : ∀ io, Seen disk io → ∃ b io', directoryIsEmpty env ctx start io = some (.ok b, io') ∧
    (b = true ↔ ∀ s ∈ listing (slots ctx disk (start :: l)), s.entry.kind = .dot)
  free : ∀ io io' slot, Seen disk io → directoryFindFreeEntry env ctx start io = some (.ok slot, io') →
    (∃ s ∈ slots ctx disk (start :: l), slot = (s.cluster, s.index) ∧
      (s.entry.kind = .endMark ∨ s.entry.kind = .deleted)) ∨
    slot.1 ∉ start :: l ∧ slot.2 = 0 ∧ (entryAt ctx io'.view slot.1 slot.2).kind = .endMark

theorem listing_eq (ss : List Found) : listing ss = (shown ss).filter fun s => decide (s.entry.kind ≠ .label) := by
  rw [listing, shown, List.filter_filter]
  congr 1
  funext s
  rcases kind_cases s.entry with ⟨kind, -⟩ | ⟨kind, -⟩ | ⟨kind, -⟩ | ⟨kind | ⟨kind, -⟩ | ⟨kind, -⟩, -⟩
  all_goals
    rw [kind]
    decide

theorem dot_iff (seen : entry.kind.Shown) (plain : entry.kind ≠ .label) : entry.isDot = true ↔ entry.kind = .dot := by
  rcases kind_cases entry with ⟨kind, -⟩ | ⟨kind, -⟩ | ⟨kind, -⟩ | ⟨kind | ⟨kind, dots⟩ | ⟨kind, dots⟩, -⟩
  · rw [kind] at seen
    exact absurd seen (by decide)
  · rw [kind] at seen
    exact absurd seen (by decide)
  · rw [kind] at seen
    exact absurd seen (by decide)
  · exact absurd kind plain
  · exact iff_of_true dots kind
  · exact iff_of_false (by rw [dots]; decide) (by rw [kind]; decide)

theorem live_of_named (seen : entry.kind.Shown) (plain : entry.kind ≠ .label)
    (short : IsSfn entry.name) : entry.kind = .live := by
  rcases seen with label | dot | live
  · exact absurd label plain
  · have dots := (dot_iff (.inr (.inl dot)) plain).mpr dot
    exact absurd (of_decide_eq_true dots) short.no_dot
  · exact live

theorem find_listed {ss : List Found} {name : Sfn} (unlabelled : ∀ s ∈ used ss, s.entry.kind ≠ .label)
    (short : IsSfn name)
    (distinct : (((used ss).filter fun s => decide (s.entry.kind = .live)).map fun s => s.entry.name).Nodup) (found : Found) :
    (used ss).find? (fun s => decide (s.entry.kind.Shown ∧ s.entry.name = name)) = some found ↔
      found ∈ listing ss ∧ found.entry.kind = .live ∧ found.entry.name = name := by
  have live : ∀ s, (used ss).find? (fun s => decide (s.entry.kind.Shown ∧ s.entry.name = name)) = some s →
      s ∈ (used ss).filter (fun s => decide (s.entry.kind = .live)) ∧ s.entry.name = name := by
    intro s hit
    have mem := List.mem_of_find?_eq_some hit
    obtain ⟨seen, rfl⟩ : s.entry.kind.Shown ∧ s.entry.name = name := by simpa using List.find?_some hit
    exact ⟨List.mem_filter.mpr ⟨mem, decide_eq_true (live_of_named seen (unlabelled s mem) short)⟩, rfl⟩
  constructor
  · intro hit
    obtain ⟨mem, same⟩ := live found hit
    obtain ⟨mem, kind⟩ := List.mem_filter.mp mem
    have kind := of_decide_eq_true kind
    exact ⟨List.mem_filter.mpr ⟨mem, decide_eq_true (.inl kind)⟩, kind, same⟩
  · rintro ⟨mem, kind, same⟩
    have mem := (List.mem_filter.mp mem).1
    cases hit : (used ss).find? fun s => decide (s.entry.kind.Shown ∧ s.entry.name = name) with
    | none =>
      have missed := List.find?_eq_none.mp hit found mem
      exact absurd (decide_eq_true ⟨.inr (.inr kind), same⟩) missed
    | some s =>
      obtain ⟨mem', same'⟩ := live s hit
      have here : found ∈ (used ss).filter fun s => decide (s.entry.kind = .live) :=
        List.mem_filter.mpr ⟨mem, decide_eq_true kind⟩
      rw [List.inj_on_of_nodup_map distinct mem' here (same'.trans same.symm)]

/-- The loops agree exactly on the directories without a volume label. -/
theorem scanners_agree_iff (env : Env) (ctx : Context) (disk : Nat → Sector) (start : Nat) (l : List Nat)
    (geometry : Geometry ctx) (ideal : env.Ideal) (enough : (l.length + 1) * readRounds ctx + 1 ≤ env.fuel)
    (directory : DirectoryOn ctx disk start l) :
    Agree env ctx disk start l ↔ ∀ s ∈ used (slots ctx disk (start :: l)), s.entry.kind ≠ .label := by
  have mounted := geometry.toMounted
  have clusters : l.length < env.fuel := by
    have rounds : l.length + 1 ≤ (l.length + 1) * readRounds ctx := Nat.le_mul_of_pos_right _ (Nat.succ_pos _)
    omega
  have whole : behind ctx disk 0 start l = slots ctx disk (start :: l) := rfl
  have reads : ∀ io, OpenedOn disk start io →
      Lists env ctx io ((shown (slots ctx disk (start :: l))).map fun s => directoryPublicEntry s.entry) := by
    rintro io ⟨⟨coherent, view⟩, handle⟩
    rw [← whole]
    refine lists_behind mounted ideal ⟨coherent, view, ?_, Nat.zero_le _, ?_, directory.threaded⟩ enough
    · rw [handle]
      exact ⟨rfl, rfl⟩
    · rw [handle]
      exact ⟨rfl, rfl⟩
  constructor
  · intro agree s mem label
    let io : Io := ⟨disk, Cache.zero, File.zero, ⟨start, start, 0, true, false⟩, [], []⟩
    have opened : OpenedOn disk start io := ⟨⟨fun valid => (nomatch valid), rfl⟩, rfl⟩
    have same := congrArg List.length ((agree.read io opened).unique (reads io opened))
    rw [List.length_map, List.length_map, listing_eq, List.length_filter_eq_length_iff] at same
    have seen : s ∈ shown (slots ctx disk (start :: l)) :=
      List.mem_filter.mpr ⟨mem, decide_eq_true (.inl label)⟩
    exact of_decide_eq_true (same s seen) label
  · intro unlabelled
    have listed : listing (slots ctx disk (start :: l)) = shown (slots ctx disk (start :: l)) := by
      rw [listing_eq, List.filter_eq_self]
      exact fun s mem => decide_eq_true (unlabelled s (List.mem_filter.mp mem).1)
    constructor
    · rintro path io io' rfl run same
      obtain ⟨start', -, opened⟩ := directoryOpen_opened ideal run
      have first : start' = start := by rw [← same, opened.directory]
      rw [← first]
      exact opened
    · rw [listed]
      exact reads
    · rintro io name ⟨coherent, rfl⟩ short
      obtain ⟨io', run⟩ := directoryFindEntry_run mounted ideal coherent directory.threaded clusters name
      refine ⟨_, io', run, fun found => ?_⟩
      rw [← find_listed unlabelled short directory.distinct found]
      cases (used (slots ctx io.view (start :: l))).find?
        fun s => decide (s.entry.kind.Shown ∧ s.entry.name = name) with
      | none => exact iff_of_false (fun h => (nomatch h)) fun h => (nomatch h)
      | some s => rw [Except.ok.injEq, Option.some_inj]
    · rintro io ⟨coherent, rfl⟩
      obtain ⟨io', run⟩ := directoryIsEmpty_run mounted ideal coherent directory.threaded clusters
      refine ⟨_, io', run, ?_⟩
      rw [decide_eq_true_iff, listed]
      constructor
      · intro dots s mem
        obtain ⟨mem, seen⟩ := List.mem_filter.mp mem
        have seen := of_decide_eq_true seen
        exact (dot_iff seen (unlabelled s mem)).mp (dots s mem seen)
      · intro dots s mem seen
        have kind := dots s (List.mem_filter.mpr ⟨mem, decide_eq_true seen⟩)
        exact (dot_iff seen (unlabelled s mem)).mpr kind
    · exact fun io io' slot seen run => directoryFindFreeEntry_ok geometry ideal seen directory.threaded clusters run

section Sample

variable (entries : List DirectoryEntry)

def rootWith : Nat → Sector := fun sector =>
  if sector = 1 then writeLE32 zeroSector 8 0x0FFFFFFF
  else if sector = 2 then fun k => entries.getD (k / 32) DirectoryEntry.zero (k % 32)
  else zeroSector

def sampleSfn : Sfn := fun i => if i.val = 0 then 0x41 else 0x20

def sampleLabel : DirectoryEntry := (DirectoryEntry.zero.setName sampleSfn).setAttributes fat32AttrVolumeId

theorem twoClusters_geometry : Geometry twoClusters := by
  constructor
  all_goals decide

theorem rootWith_threaded : Threaded twoClusters (rootWith entries) [2] := by
  refine ⟨by decide, rfl, ?_⟩
  change clusterLink twoClusters (rootWith []) 2 = none
  decide +kernel

theorem scanners_agree_sample : Agree (idealEnv 64) twoClusters (rootWith [newFileEntry sampleSfn]) 2 [] := by
  have content : (used (slots twoClusters (rootWith [newFileEntry sampleSfn]) [2])).map
      (fun s => (s.entry.kind, s.entry.name)) = [(.live, sampleSfn)] := by
    decide +kernel
  have only : ∀ s ∈ used (slots twoClusters (rootWith [newFileEntry sampleSfn]) [2]),
      s.entry.kind = .live ∧ s.entry.name = sampleSfn := by
    intro s mem
    have here := List.mem_map_of_mem (f := fun s : Found => (s.entry.kind, s.entry.name)) mem
    rw [content, List.mem_singleton] at here
    exact ⟨congrArg Prod.fst here, congrArg Prod.snd here⟩
  have directory : DirectoryOn twoClusters (rootWith [newFileEntry sampleSfn]) 2 [] := by
    refine ⟨rootWith_threaded _, fun s mem _ => ?_, by decide +kernel⟩
    rw [(only s mem).2]
    exact ⟨[0x41], by decide +kernel⟩
  refine (scanners_agree_iff (idealEnv 64) twoClusters _ 2 [] twoClusters_geometry (idealEnv_ideal 64) (by decide) directory).mpr ?_
  intro s mem
  rw [(only s mem).1]
  decide

/-- A volume label is read as if it were a file. -/
theorem scanners_label : DirectoryOn twoClusters (rootWith [sampleLabel]) 2 [] ∧
    ¬Agree (idealEnv 64) twoClusters (rootWith [sampleLabel]) 2 [] := by
  have content : (used (slots twoClusters (rootWith [sampleLabel]) [2])).map (fun s => s.entry.kind) = [.label] := by
    decide +kernel
  have only : ∀ s ∈ used (slots twoClusters (rootWith [sampleLabel]) [2]), s.entry.kind = .label := by
    intro s mem
    have here := List.mem_map_of_mem (f := fun s : Found => s.entry.kind) mem
    rw [content, List.mem_singleton] at here
    exact here
  refine ⟨⟨rootWith_threaded _, fun s mem live => ?_, by decide +kernel⟩, fun agree => ?_⟩
  · rw [only s mem] at live
    cases live
  · let io : Io := ⟨rootWith [sampleLabel], Cache.zero, File.zero, ⟨2, 2, 0, true, false⟩, [], []⟩
    have lists := agree.read io ⟨⟨fun valid => (nomatch valid), rfl⟩, rfl⟩
    have none_listed : (listing (slots twoClusters (rootWith [sampleLabel]) [2])).map
        (fun s => directoryPublicEntry s.entry) = [] := by
      decide +kernel
    rw [none_listed] at lists
    have found : (directoryRead (idealEnv 64) twoClusters io).map
        (fun out => out.1.toOption.join.isSome) = some true := by
      decide +kernel
    cases lists with
    | done read =>
      rw [read] at found
      cases found

end Sample

end XSDK.Fs
