import XSDK.Fs.FileChain
import XSDK.Fs.ShortName
import XSDK.Fs.Termination

/-! A directory as the list of its entries, and what the loops over them come to. -/
namespace XSDK.Fs

open Library Prog

variable {α : Type} {env : Env} {ctx : Context} {io : Io} {disk : Nat → Sector} {c : Nat} {l : List Nat}

inductive Kind where
  | endMark
  | deleted
  /-- Of a long name. -/
  | fragment
  | label
  | dot
  | live
  deriving DecidableEq

def DirectoryEntry.kind (entry : DirectoryEntry) : Kind :=
  if entry.isEnd = true then .endMark
  else if entry.isFree = true then .deleted
  else if entry.isLfn = true then .fragment
  else if entry.attributes &&& fat32AttrVolumeId ≠ 0 then .label
  else if entry.isDot = true then .dot
  else .live

def slotsFrom (ctx : Context) (disk : Nat → Sector) (cluster index left : Nat) : List Found :=
  (List.range' index left).map fun k => ⟨entryAt ctx disk cluster k, cluster, k⟩

def slots (ctx : Context) (disk : Nat → Sector) (l : List Nat) : List Found :=
  l.flatMap fun cluster => slotsFrom ctx disk cluster 0 (entriesPerCluster ctx)

def used (slots : List Found) : List Found := slots.takeWhile fun s => decide (s.entry.kind ≠ .endMark)

/-- What a directory lists: the live entries and the dot entries. -/
def listing (slots : List Found) : List Found :=
  (used slots).filter fun s => decide (s.entry.kind = .live ∨ s.entry.kind = .dot)

variable (visit : Visit α)

def visitSlot (s : Found) : Option (Except Error α) := visit s.cluster s.index s.entry

theorem slotsFrom_succ (cluster index left : Nat) : slotsFrom ctx disk cluster index (left + 1) =
    ⟨entryAt ctx disk cluster index, cluster, index⟩ :: slotsFrom ctx disk cluster (index + 1) left := rfl

theorem scanFrom_eq (cluster left index : Nat) :
    scanFrom ctx visit disk cluster left index =
      (slotsFrom ctx disk cluster index left).findSome? (visitSlot visit) := by
  induction left generalizing index with
  | zero => rfl
  | succ left ih =>
    rw [scanFrom, slotsFrom_succ, List.findSome?_cons, ih, visitSlot]
    cases visit cluster index (entryAt ctx disk cluster index) with
    | none => rfl
    | some _ => rfl

theorem scan_eq (cluster : Nat) : scan ctx visit disk cluster =
    (slotsFrom ctx disk cluster 0 (entriesPerCluster ctx)).findSome? (visitSlot visit) :=
  scanFrom_eq visit cluster _ 0

theorem walkDirectory_slots (mounted : Mounted ctx) (visit : Visit α) (atEnd : Nat → IoM α)
    {fuel : Nat} (coherent : io.Coherent) (threaded : Threaded ctx io.view (c :: l)) (enough : l.length < fuel) :
    Reaches env io ((l.length + 1) * scanCost ctx) (walkDirectory env ctx visit atEnd fuel c)
      (match (slots ctx io.view (c :: l)).findSome? (visitSlot visit) with
        | some result => finish result
        | none => atEnd ((c :: l).getLast (List.cons_ne_nil c l))) := by
  induction l generalizing c fuel io with
  | nil =>
    obtain ⟨fuel, rfl⟩ : ∃ n, fuel = n + 1 := ⟨fuel - 1, by omega⟩
    have known := threaded.known c List.mem_cons_self
    have eoc : isEoc (fatEntry ctx io.view c) = true :=
      linkOf_none.mp (@Threaded.next_head ctx io.view [] [] c threaded)
    have stop : nextCluster ctx visit io.view c = none := by
      rw [nextCluster, if_neg]
      rintro ⟨-, -, more⟩
      rw [eoc] at more
      cases more
    have reaches := @last_step α env ctx io c visit atEnd fuel mounted coherent stop
    rw [lastStep, if_pos known, scan_eq] at reaches
    rw [slots, List.flatMap_cons, List.flatMap_nil, List.append_nil, List.length_nil, Nat.zero_add, Nat.one_mul]
    exact reaches
  | cons c' l ih =>
    obtain ⟨fuel, rfl⟩ : ∃ n, fuel = n + 1 := ⟨fuel - 1, by omega⟩
    have known := threaded.known c List.mem_cons_self
    have link : linkOf ctx io.view c = some c' := @Threaded.next_head ctx io.view [] (c' :: l) c threaded
    obtain ⟨more, leads⟩ := linkOf_some.mp link
    have cost : ((c' :: l).length + 1) * scanCost ctx = scanCost ctx + (l.length + 1) * scanCost ctx := by
      rw [List.length_cons, Nat.add_mul (l.length + 1), Nat.one_mul, Nat.add_comm]
    rw [slots, List.flatMap_cons, List.findSome?_append, cost]
    cases found : (slotsFrom ctx io.view c 0 (entriesPerCluster ctx)).findSome? (visitSlot visit) with
    | some result =>
      have stop : nextCluster ctx visit io.view c = none := by
        rw [nextCluster, if_neg]
        rintro ⟨-, through, -⟩
        rw [scan_eq, found] at through
        cases through
      have reaches := @last_step α env ctx io c visit atEnd fuel mounted coherent stop
      rw [lastStep, if_pos known, scan_eq, found] at reaches
      exact reaches.weaken (Nat.le_add_right _ _)
    | none =>
      have go : nextCluster ctx visit io.view c = some c' := by
        rw [nextCluster, if_pos ⟨known, by rw [scan_eq, found], more⟩, leads]
      refine (@next_step α env ctx io c visit atEnd fuel mounted coherent c' go).trans fun io' coherent' looked => ?_
      rw [List.length_cons] at enough
      have rest := @ih io' c' fuel coherent' (by rw [looked.view]; exact threaded.tail) (by omega)
      rw [looked.view] at rest
      exact rest

/- The kinds and what the loops do at them. -/

def IsSfn (name : Sfn) : Prop := ∃ component, pathToSfn component = some name

theorem IsSfn.no_dot {name : Sfn} (short : IsSfn name) : name ⟨0, by decide⟩ ≠ pathDot := by
  obtain ⟨component, converted⟩ := short
  obtain ⟨parts, named, -, rfl⟩ := (SfnParts.pathToSfn_iff component name).mp converted
  obtain ⟨first, rest, front⟩ := List.exists_cons_of_ne_nil named
  have here : parts.sfn ⟨0, by decide⟩ = first := by
    rw [SfnParts.sfn, if_pos (by decide), front]
    rfl
  rw [here]
  exact allowed_ne_dot first (parts.name_allowed first (front ▸ List.mem_cons_self))

section Kinds

variable {entry : DirectoryEntry} {cluster index : Nat} {name : Sfn}

theorem kind_cases (entry : DirectoryEntry) :
    (entry.kind = .endMark ∧ entry.isEnd = true) ∨
    (entry.kind = .deleted ∧ entry.isEnd = false ∧ entry.isFree = true) ∨
    (entry.kind = .fragment ∧ entry.isEnd = false ∧ entry.isFree = false ∧ entry.isLfn = true) ∨
    ((entry.kind = .label ∨ entry.kind = .dot ∧ entry.isDot = true ∨ entry.kind = .live ∧ entry.isDot = false) ∧
      entry.isEnd = false ∧ ¬(entry.isFree = true ∨ entry.isLfn = true)) := by
  rw [DirectoryEntry.kind]
  cases ended : entry.isEnd with
  | true => exact .inl ⟨if_pos rfl, rfl⟩
  | false =>
    rw [if_neg (by decide)]
    cases free : entry.isFree with
    | true => exact .inr (.inl ⟨if_pos rfl, rfl, rfl⟩)
    | false =>
      rw [if_neg (by decide)]
      cases long : entry.isLfn with
      | true => exact .inr (.inr (.inl ⟨if_pos rfl, rfl, rfl, rfl⟩))
      | false =>
        rw [if_neg (by decide)]
        refine .inr (.inr (.inr ⟨?_, rfl, by decide⟩))
        by_cases volume : entry.attributes &&& fat32AttrVolumeId ≠ 0
        · exact .inl (if_pos volume)
        · rw [if_neg volume]
          cases entry.isDot with
          | true => exact .inr (.inl ⟨if_pos rfl, rfl⟩)
          | false => exact .inr (.inr ⟨if_neg (by decide), rfl⟩)

def Kind.Shown (kind : Kind) : Prop := kind = .label ∨ kind = .dot ∨ kind = .live

instance (kind : Kind) : Decidable kind.Shown := inferInstanceAs (Decidable (_ ∨ _))

theorem isEnd_iff : entry.isEnd = true ↔ entry.kind = .endMark := by
  rcases kind_cases entry with ⟨kind, ended⟩ | ⟨kind, going, -⟩ | ⟨kind, going, -⟩ | ⟨kind | ⟨kind, -⟩ | ⟨kind, -⟩, going, -⟩
  · exact iff_of_true ended kind
  all_goals
    refine iff_of_false (by rw [going]; decide) ?_
    rw [kind]
    decide

theorem skipped_iff (going : entry.kind ≠ .endMark) : entry.isFree = true ∨ entry.isLfn = true ↔ ¬entry.kind.Shown := by
  rcases kind_cases entry with ⟨kind, -⟩ | ⟨kind, -, free⟩ | ⟨kind, -, -, long⟩ | ⟨kind | ⟨kind, -⟩ | ⟨kind, -⟩, -, plain⟩
  · exact absurd kind going
  · exact iff_of_true (.inl free) (by rw [kind]; decide)
  · exact iff_of_true (.inr long) (by rw [kind]; decide)
  all_goals exact iff_of_false plain (by rw [kind]; decide)

end Kinds

section Answers

variable {name : Sfn} {ss : List Found} {s : Found}

theorem used_cons (s : Found) (ss : List Found) :
    used (s :: ss) = if s.entry.kind = .endMark then [] else s :: used ss := by
  rw [used, List.takeWhile_cons]
  by_cases ended : s.entry.kind = .endMark
  · rw [if_pos ended, if_neg (by simpa using ended)]
  · rw [if_neg ended, if_pos (by simpa using ended)]
    rfl

theorem find_answer (name : Sfn) (ss : List Found) :
    (ss.findSome? (visitSlot (findVisit name))).getD (.error .notFound) =
      match (used ss).find? fun s => decide (s.entry.kind.Shown ∧ s.entry.name = name) with
      | some s => .ok s
      | none => .error .notFound := by
  induction ss with
  | nil => rfl
  | cons s ss ih =>
    rw [List.findSome?_cons, visitSlot, findVisit, used_cons]
    by_cases ended : s.entry.kind = .endMark
    · rw [if_pos (isEnd_iff.mpr ended), if_pos ended]
      rfl
    · rw [if_neg (fun h => ended (isEnd_iff.mp h)), if_neg ended, List.find?_cons]
      by_cases shown : s.entry.kind.Shown
      · rw [if_neg (fun h => (skipped_iff ended).mp h shown)]
        by_cases same : s.entry.name = name
        · rw [if_pos same, decide_eq_true ⟨shown, same⟩]
          rfl
        · rw [if_neg same, decide_eq_false (fun h => same h.2)]
          exact ih
      · rw [if_pos ((skipped_iff ended).mpr shown), decide_eq_false (fun h => shown h.1)]
        exact ih

theorem empty_answer (ss : List Found) :
    (ss.findSome? (visitSlot emptyVisit)).getD (.ok true) =
      .ok (decide (∀ s ∈ used ss, s.entry.kind.Shown → s.entry.isDot = true)) := by
  induction ss with
  | nil => rfl
  | cons s ss ih =>
    rw [List.findSome?_cons, visitSlot, emptyVisit, used_cons]
    by_cases ended : s.entry.kind = .endMark
    · rw [if_pos (isEnd_iff.mpr ended), if_pos ended]
      exact congrArg Except.ok (decide_eq_true fun _ mem => absurd mem List.not_mem_nil).symm
    · rw [if_neg (fun h => ended (isEnd_iff.mp h)), if_neg ended]
      have skip : (s.entry.isFree = true ∨ s.entry.isLfn = true ∨ s.entry.isDot = true) ↔
          (s.entry.kind.Shown → s.entry.isDot = true) := by
        rw [← or_assoc, skipped_iff ended, imp_iff_not_or]
      by_cases dots : s.entry.kind.Shown → s.entry.isDot = true
      · rw [if_pos (skip.mpr dots)]
        dsimp only
        rw [ih]
        congr 2
        rw [List.forall_mem_cons, eq_iff_iff]
        exact (and_iff_right dots).symm
      · rw [if_neg (fun h => dots (skip.mp h))]
        refine congrArg Except.ok (decide_eq_false fun all => dots ?_).symm
        exact all s List.mem_cons_self

theorem free_answer {result : Except Error (Nat × Nat)} (found : ss.findSome? (visitSlot freeVisit) = some result) :
    ∃ s ∈ ss, result = .ok (s.cluster, s.index) ∧ (s.entry.isEnd = true ∨ s.entry.isFree = true) := by
  obtain ⟨s, mem, visited⟩ := List.exists_of_findSome?_eq_some found
  rw [visitSlot, freeVisit] at visited
  split at visited
  · next vacant =>
    cases visited
    exact ⟨s, mem, rfl, vacant⟩
  · cases visited

end Answers

/- The answers of the calls. -/

section Calls

variable {start : Nat} {name : Sfn} (mounted : Mounted ctx) (ideal : env.Ideal) (coherent : io.Coherent)
  (threaded : Threaded ctx io.view (c :: l)) (enough : l.length < env.fuel)
include mounted ideal coherent threaded enough

theorem directoryFindEntry_run (name : Sfn) :
    ∃ io', directoryFindEntry env ctx c name io =
      some (match (used (slots ctx io.view (c :: l))).find? fun s => decide (s.entry.kind.Shown ∧ s.entry.name = name) with
        | some s => .ok s
        | none => .error .notFound, io') := by
  have known := threaded.known c List.mem_cons_self
  rw [directoryFindEntry, reject_bind_neg _ (by rw [known]; decide), reject_bind_neg _ (entriesPerCluster_ne_zero mounted)]
  obtain ⟨io', -, -, same⟩ :=
    (walkDirectory_slots mounted (findVisit name) (fun _ => fail .notFound) coherent threaded enough).ideal ideal
  rw [same, ← find_answer]
  cases (slots ctx io.view (c :: l)).findSome? (visitSlot (findVisit name)) with
  | none => exact ⟨io', rfl⟩
  | some result =>
    cases result with
    | ok s => exact ⟨io', rfl⟩
    | error e => exact ⟨io', rfl⟩

theorem directoryIsEmpty_run :
    ∃ io', directoryIsEmpty env ctx c io =
      some (.ok (decide (∀ s ∈ used (slots ctx io.view (c :: l)), s.entry.kind.Shown → s.entry.isDot = true)), io') := by
  rw [directoryIsEmpty, reject_bind_neg _ (entriesPerCluster_ne_zero mounted)]
  obtain ⟨io', -, -, same⟩ :=
    (walkDirectory_slots mounted emptyVisit (fun _ => (return true : IoM Bool)) coherent threaded enough).ideal ideal
  have answer := empty_answer (slots ctx io.view (c :: l))
  rw [same]
  cases found : (slots ctx io.view (c :: l)).findSome? (visitSlot emptyVisit) with
  | none =>
    rw [found] at answer
    rw [← Except.ok.inj answer]
    exact ⟨io', rfl⟩
  | some result =>
    rw [found] at answer
    cases answer
    exact ⟨io', rfl⟩

end Calls

end XSDK.Fs
