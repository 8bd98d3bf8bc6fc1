import XSDK.Fs.Listing

/-! Reading a directory through its handle, entry after entry. -/
namespace XSDK.Fs

open Library Prog

variable {env : Env} {ctx : Context} {io : Io} {disk : Nat → Sector} {c : Nat} {l : List Nat}

/-- Reading goes on until no entry is left, and gave these. -/
inductive Lists (env : Env) (ctx : Context) : Io → List PublicEntry → Prop
  | done {io io' : Io} (read : directoryRead env ctx io = some (.ok none, io')) : Lists env ctx io []
  | more {io io' : Io} {entry : PublicEntry} {entries : List PublicEntry}
      (read : directoryRead env ctx io = some (.ok (some entry), io')) (rest : Lists env ctx io' entries) :
      Lists env ctx io (entry :: entries)

theorem Lists.unique {entries entries' : List PublicEntry} (lists : Lists env ctx io entries)
    (lists' : Lists env ctx io entries') : entries = entries' := by
  induction lists generalizing entries' with
  | done read =>
    cases lists' with
    | done _ => rfl
    | more read' _ =>
      rw [read] at read'
      cases read'
  | more read rest ih =>
    cases lists' with
    | done read' =>
      rw [read] at read'
      cases read'
    | more read' rest' =>
      rw [read] at read'
      cases read'
      rw [ih rest']

def nextShown : List Found → Option (Found × List Found)
  | [] => none
  | s :: ss => if s.entry.kind = .endMark then none else if s.entry.kind.Shown then some (s, ss) else nextShown ss

def shown (ss : List Found) : List Found := (used ss).filter fun s => decide s.entry.kind.Shown

theorem shown_cons (s : Found) (ss : List Found) :
    shown (s :: ss) =
      if s.entry.kind = .endMark then [] else if s.entry.kind.Shown then s :: shown ss else shown ss := by
  rw [shown, used_cons]
  by_cases ended : s.entry.kind = .endMark
  · rw [if_pos ended, if_pos ended, List.filter_nil]
  · rw [if_neg ended, if_neg ended, List.filter_cons, shown]
    by_cases seen : s.entry.kind.Shown
    · rw [if_pos seen, if_pos (decide_eq_true seen)]
    · rw [if_neg seen, if_neg (by simpa using seen)]

theorem nextShown_none {ss : List Found} (next : nextShown ss = none) : shown ss = [] := by
  induction ss with
  | nil => rfl
  | cons s ss ih =>
    rw [nextShown] at next
    rw [shown_cons]
    split at next
    · next ended => rw [if_pos ended]
    · next going =>
      split at next
      · cases next
      · next hidden =>
        rw [if_neg going, if_neg hidden]
        exact ih next

theorem nextShown_some {ss rest : List Found} {s : Found} (next : nextShown ss = some (s, rest)) :
    shown ss = s :: shown rest ∧ rest.length < ss.length := by
  induction ss with
  | nil => cases next
  | cons s' ss ih =>
    rw [nextShown] at next
    rw [shown_cons, List.length_cons]
    split at next
    · cases next
    · next going =>
      rw [if_neg going]
      split at next
      · next seen =>
        cases next
        rw [if_pos seen]
        exact ⟨rfl, Nat.lt_succ_self _⟩
      · next hidden =>
        rw [if_neg hidden]
        exact (ih next).imp_right Nat.lt_succ_of_lt

/-- The handle stands before these entries, with so many clusters behind its own. -/
structure Before (ctx : Context) (disk : Nat → Sector) (io : Io) (index : Nat) (c : Nat) (l : List Nat) : Prop where
  coherent : io.Coherent
  view : io.view = disk
  place : io.directory.currentCluster = c ∧ io.directory.currentIndex = index
  inside : index ≤ entriesPerCluster ctx
  opened : io.directory.isOpen = true ∧ io.directory.isEnd = false
  threaded : Threaded ctx disk (c :: l)

def behind (ctx : Context) (disk : Nat → Sector) (index c : Nat) (l : List Nat) : List Found :=
  slotsFrom ctx disk c index (entriesPerCluster ctx - index) ++ slots ctx disk l

def roundsLeft (ctx : Context) (index : Nat) (l : List Nat) : Nat :=
  entriesPerCluster ctx - index + l.length * readRounds ctx + 2

section Reads

variable {index fuel : Nat} (mounted : Mounted ctx) (ideal : env.Ideal)
include mounted ideal

theorem read_entry (before : Before ctx disk io index c l) (bound : index < entriesPerCluster ctx) :
    ∃ io', Before ctx disk io' (index + 1) c l ∧
      directoryReadFrom env ctx (fuel + 1) io =
        (if (entryAt ctx disk c index).kind = .endMark then do
            updateDirectory fun directory => { directory with isEnd := true }
            return none
          else if (entryAt ctx disk c index).kind.Shown then
            return some (directoryPublicEntry (entryAt ctx disk c index))
          else directoryReadFrom env ctx fuel : IoM (Option PublicEntry)) io' := by
  obtain ⟨coherent, rfl, ⟨rfl, rfl⟩, inside, ⟨isOpen, on⟩, threaded⟩ := before
  have known := threaded.known _ List.mem_cons_self
  have next : word32 (io.directory.currentIndex + 1) = io.directory.currentIndex + 1 :=
    word32_of_lt (by have small := entriesPerCluster_lt mounted; omega)
  obtain ⟨io', run, coherent', looked⟩ := (directoryReadEntry_acts env mounted known bound coherent).ideal ideal
  have moved : updateDirectory (fun directory => { directory with currentIndex := word32 (directory.currentIndex + 1) }) io' =
      some (.ok (), { io' with directory := { io'.directory with currentIndex := io.directory.currentIndex + 1 } }) := by
    rw [updateDirectory_run, looked.directory, next]
  have cluster : io'.directory.currentCluster = io.directory.currentCluster := by rw [looked.directory]
  refine ⟨{ io' with directory := { io'.directory with currentIndex := io.directory.currentIndex + 1 } },
    ⟨coherent', looked.view, ⟨cluster, rfl⟩, bound, ?_, threaded⟩, ?_⟩
  · exact ⟨(congrArg Directory.isOpen looked.directory).trans isOpen, (congrArg Directory.isEnd looked.directory).trans on⟩
  · rw [read_at _ _ on bound, bind_ok _ run, bind_ok _ moved]
    by_cases ended : (entryAt ctx io.view io.directory.currentCluster io.directory.currentIndex).kind = .endMark
    · rw [if_pos ended, if_pos (isEnd_iff.mpr ended)]
    · rw [if_neg ended, if_neg (fun h => ended (isEnd_iff.mp h))]
      by_cases seen : (entryAt ctx io.view io.directory.currentCluster io.directory.currentIndex).kind.Shown
      · rw [if_pos seen, if_neg (fun h => (skipped_iff ended).mp h seen)]
      · rw [if_neg seen, if_pos ((skipped_iff ended).mpr seen)]

omit mounted in
theorem read_last (before : Before ctx disk io (entriesPerCluster ctx) c []) :
    ∃ io', directoryReadFrom env ctx (fuel + 2) io = some (.ok none, io') := by
  obtain ⟨coherent, rfl, ⟨rfl, place⟩, inside, ⟨isOpen, on⟩, threaded⟩ := before
  have known := threaded.known _ List.mem_cons_self
  have eoc : isEoc (fatEntry ctx io.view io.directory.currentCluster) = true :=
    linkOf_none.mp (@Threaded.next_head ctx io.view [] [] _ threaded)
  obtain ⟨io', run, coherent', looked⟩ := (fat32ReadEntry_acts env coherent known).ideal ideal
  rw [read_advance _ _ on (le_of_eq place.symm), bind_ok _ run, if_pos eoc, bind_ok _ (updateDirectory_run _ _),
    directoryReadFrom, bind_ok _ (read_run _), if_pos rfl]
  exact ⟨_, rfl⟩

omit mounted in
theorem read_next {c' : Nat} (before : Before ctx disk io (entriesPerCluster ctx) c (c' :: l)) :
    ∃ io', Before ctx disk io' 0 c' l ∧ directoryReadFrom env ctx (fuel + 1) io =
      directoryReadFrom env ctx fuel io' := by
  obtain ⟨coherent, rfl, ⟨rfl, place⟩, inside, ⟨isOpen, on⟩, threaded⟩ := before
  have known := threaded.known _ List.mem_cons_self
  obtain ⟨more, rfl⟩ := linkOf_some.mp (@Threaded.next_head ctx io.view [] (c' :: l) _ threaded)
  have known' := threaded.tail.known _ List.mem_cons_self
  rcases next_round env fuel coherent on known (le_of_eq place.symm) more known' with
    ⟨io', coherent', view, moved, -, round⟩ | ⟨-, spoiled⟩
  · refine ⟨io', ⟨coherent', view, ?_, Nat.zero_le _, ?_, threaded.tail⟩, round⟩
    · rw [moved]
      exact ⟨rfl, rfl⟩
    · rw [moved]
      exact ⟨isOpen, on⟩
  · exact absurd ideal spoiled

omit mounted ideal in
theorem behind_end (disk : Nat → Sector) (c : Nat) (l : List Nat) :
    behind ctx disk (entriesPerCluster ctx) c l = slots ctx disk l := by
  rw [behind, Nat.sub_self]
  rfl

omit mounted ideal in
theorem behind_entry (disk : Nat → Sector) (c : Nat) (l : List Nat) (bound : index < entriesPerCluster ctx) :
    behind ctx disk index c l = ⟨entryAt ctx disk c index, c, index⟩ :: behind ctx disk (index + 1) c l := by
  obtain ⟨left, size⟩ : ∃ left, entriesPerCluster ctx - index = left + 1 :=
    ⟨entriesPerCluster ctx - index - 1, by omega⟩
  have rest : entriesPerCluster ctx - (index + 1) = left := by omega
  rw [behind, behind, size, rest, slotsFrom_succ]
  rfl

theorem directoryReadFrom_next (before : Before ctx disk io index c l) (enough : roundsLeft ctx index l ≤ fuel) :
    match nextShown (behind ctx disk index c l) with
    | none => ∃ io', directoryReadFrom env ctx fuel io = some (.ok none, io')
    | some (s, rest) => ∃ io' index' c' l',
        directoryReadFrom env ctx fuel io = some (.ok (some (directoryPublicEntry s.entry)), io') ∧
          Before ctx disk io' index' c' l' ∧ rest = behind ctx disk index' c' l' ∧ l'.length ≤ l.length := by
  induction fuel generalizing io index c l with
  | zero =>
    rw [roundsLeft] at enough
    omega
  | succ fuel ih =>
    rcases Nat.lt_or_eq_of_le before.inside with bound | rfl
    · obtain ⟨io', before', round⟩ := @read_entry env ctx io disk c l index fuel mounted ideal before bound
      rw [behind_entry disk c l bound, nextShown, round]
      by_cases ended : (entryAt ctx disk c index).kind = .endMark
      · rw [if_pos ended, if_pos ended, bind_ok _ (updateDirectory_run _ _)]
        exact ⟨_, rfl⟩
      · rw [if_neg ended, if_neg ended]
        by_cases seen : (entryAt ctx disk c index).kind.Shown
        · rw [if_pos seen, if_pos seen]
          exact ⟨io', index + 1, c, l, rfl, before', rfl, Nat.le_refl _⟩
        · rw [if_neg seen, if_neg seen]
          apply ih before'
          rw [roundsLeft] at enough ⊢
          omega
    · rw [behind_end]
      cases l with
      | nil =>
        rw [roundsLeft, Nat.sub_self, List.length_nil] at enough
        obtain ⟨fuel, rfl⟩ : ∃ n, fuel = n + 1 := ⟨fuel - 1, by omega⟩
        exact read_last ideal before
      | cons c' l =>
        obtain ⟨io', before', round⟩ := @read_next env ctx io disk c l fuel ideal c' before
        have left : roundsLeft ctx 0 l ≤ fuel := by
          rw [roundsLeft, Nat.sub_self, List.length_cons, Nat.add_mul, Nat.one_mul, readRounds] at enough
          rw [roundsLeft, readRounds]
          omega
        have later := ih before' left
        rw [round]
        change match nextShown (behind ctx disk 0 c' l) with
          | none => ∃ io'', directoryReadFrom env ctx fuel io' = some (.ok none, io'')
          | some (s, rest) => ∃ io'' index' c'' l',
              directoryReadFrom env ctx fuel io' = some (.ok (some (directoryPublicEntry s.entry)), io'') ∧
                Before ctx disk io'' index' c'' l' ∧ rest = behind ctx disk index' c'' l' ∧ l'.length ≤ (c' :: l).length
        cases next : nextShown (behind ctx disk 0 c' l) with
        | none =>
          rw [next] at later
          exact later
        | some found =>
          rw [next] at later
          obtain ⟨io'', index', c'', l', run, place, rest, shorter⟩ := later
          exact ⟨io'', index', c'', l', run, place, rest, Nat.le_succ_of_le shorter⟩

theorem lists_behind (before : Before ctx disk io index c l) (enough : (l.length + 1) * readRounds ctx + 1 ≤ env.fuel) :
    Lists env ctx io ((shown (behind ctx disk index c l)).map fun s => directoryPublicEntry s.entry) := by
  generalize size : (behind ctx disk index c l).length = n
  induction n using Nat.strong_induction_on generalizing io index c l with
  | _ n ih =>
    have inside := before.inside
    have rounds : roundsLeft ctx index l ≤ env.fuel := by
      rw [Nat.add_mul, Nat.one_mul, readRounds] at enough
      rw [roundsLeft, readRounds]
      omega
    have read := directoryReadFrom_next mounted ideal before rounds
    have shape : directoryRead env ctx io = directoryReadFrom env ctx env.fuel io := by
      rw [directoryRead, bind_ok _ (read_run _), reject_bind_neg _ (by rw [before.opened.1]; decide),
        if_neg (by rw [before.opened.2]; decide), reject_bind_neg _ (entriesPerCluster_ne_zero mounted)]
    cases next : nextShown (behind ctx disk index c l) with
    | none =>
      rw [next] at read
      obtain ⟨io', run⟩ := read
      rw [nextShown_none next]
      exact .done (shape.trans run)
    | some found =>
      obtain ⟨s, rest⟩ := found
      rw [next] at read
      obtain ⟨io', index', c', l', run, before', rfl, shorter⟩ := read
      obtain ⟨split, less⟩ := nextShown_some next
      rw [split]
      refine .more (shape.trans run) (ih _ (size ▸ less) before' ?_ rfl)
      have fewer : (l'.length + 1) * readRounds ctx ≤ (l.length + 1) * readRounds ctx :=
        Nat.mul_le_mul_right _ (Nat.succ_le_succ shorter)
      omega

end Reads

end XSDK.Fs
