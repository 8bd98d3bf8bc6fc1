import XSDK.Fs.FileChain

/-! The walks of a file's cursor, with the driver failing as it likes. The index of the cursor
is set at the end of a walk only, so one that stops on its way leaves the index behind. -/
namespace XSDK.Fs

open Library Prog

variable {env : Env} {ctx : Context} {io io' : Io} {l l' : List Nat} {stuck : Nat → List Nat → Io → Prop}
  {link : Nat → IoM Nat}

section Allocation

variable (wf : FatWellFormed ctx) (geometry : Geometry ctx) (coherent : io.Coherent) (threaded : Threaded ctx io.view l)
include wf geometry coherent threaded

omit coherent in
theorem Marked.grown {cluster : Nat} (marked : Marked ctx io cluster io')
    (coherent' : io'.Coherent) (driver : ¬env.Ideal) :
    Grown env ctx io l io' l := by
  obtain ⟨free, view, -⟩ := marked
  refine ⟨coherent', ?_, List.prefix_refl l, ?_, ?_, fun ideal => absurd ideal driver⟩
  · rw [view]
    exact threaded.mark wf free
  · intro s high
    rw [view]
    exact writeFat_data geometry (mem_freeClusters.mp free).1 io.view _ high
  · have count := card_free_mark wf free
    rw [room, room, view]
    omega

theorem allocate_grown :
    Triple (· = io) (fat32AllocateCluster env ctx) (fun c io' => io'.Coherent ∧ Marked ctx io c io') fun _ io' =>
      Grown env ctx io l io' l ∧ io'.file = io.file ∧ (env.Ideal → freeClusters ctx io'.view = ∅) := by
  refine (fat32AllocateCluster_triple wf coherent).weaken (fun _ h => h) (fun _ _ h => h) ?_
  rintro e io' ⟨coherent', outcome, full⟩
  have empty : env.Ideal → freeClusters ctx io'.view = ∅ := by
    intro ideal
    obtain ⟨none, view⟩ := full ideal
    rw [view]
    exact none
  rcases outcome with looked | ⟨c, marked⟩
  · exact ⟨Grown.of_view coherent' threaded looked.view, looked.file, empty⟩
  · refine ⟨?_, marked.2.2, empty⟩
    by_cases ideal : env.Ideal
    · exact Grown.of_view coherent' threaded (full ideal).2
    · exact marked.grown wf geometry threaded coherent' ideal

theorem fileAllocateNext_triple {front : List Nat} {tail : Nat} (split : l = front ++ [tail]) :
    Triple (· = io) (fileAllocateNext env ctx tail)
      (fun c io' => Grown env ctx io l io' (l ++ [c]) ∧ io'.file = io.file)
      fun _ io' => ∃ l', Grown env ctx io l io' l' ∧ io'.file = io.file ∧
        (env.Ideal → l' = l ∧ freeClusters ctx io'.view = ∅) := by
  have last : tail ∈ l := by
    rw [split]
    exact List.mem_append_right _ List.mem_cons_self
  rw [fileAllocateNext]
  refine .bind ((allocate_grown wf geometry coherent threaded).weaken (fun _ h => h) (fun _ _ h => h)
    fun _ _ h => ⟨l, h.1, h.2.1, fun ideal => ⟨rfl, h.2.2 ideal⟩⟩) fun c => ?_
  rintro io₁ ⟨coherent₁, marked⟩
  obtain ⟨free, view₁, file₁⟩ := marked
  have tailKnown := threaded.known tail last
  have ne : tail ≠ c := fun same => threaded.not_mem_free wf free (same ▸ last)
  have entry : fatEntry ctx io₁.view tail = fatEntry ctx io.view tail := by
    rw [view₁]
    exact fatEntry_writeFat_ne wf (wf.inRange_iff.mp tailKnown).2 (mem_freeClusters.mp free).1 ne
  have taken : fatEntry ctx io₁.view tail ≠ fat32FreeCluster := by
    rw [entry]
    exact threaded.not_free wf last
  have linked : ∀ io', io'.Coherent → io'.view = writeFat ctx io₁.view tail c → Grown env ctx io l io' (l ++ [c]) := by
    intro io' coherent' view'
    have sum : room ctx io'.view (l ++ [c]) = room ctx io.view l := by
      have count := card_free_mark wf free
      rw [room, room, view', free_link wf tailKnown taken (mem_freeClusters.mp free).1, view₁, List.length_append,
        List.length_singleton]
      omega
    refine ⟨coherent', ?_, List.prefix_append l [c], ?_, Nat.le_of_eq sum, fun _ => sum⟩
    · rw [view', view₁]
      exact threaded.extend wf split free
    · intro s high
      rw [view', writeFat_data geometry tailKnown _ _ high, view₁]
      exact writeFat_data geometry (mem_freeClusters.mp free).1 io.view _ high
  have markedAgain : ∀ io', io'.Coherent → Looked io₁ io' → ¬env.Ideal → Grown env ctx io l io' l := by
    intro io' coherent' looked driver
    refine Marked.grown wf geometry threaded ⟨free, ?_, ?_⟩ coherent' driver
    · rw [looked.view]
      exact view₁
    · rw [looked.file]
      exact file₁
  refine Triple.bind (P := (· = io₁)) ((fat32WriteEntry_triple env coherent₁ tailKnown c).weaken (fun _ h => h)
    (fun _ _ h => h) fun _ io' h => ⟨l, markedAgain io' h.1 h.2.1 h.2.2, h.2.1.file.trans file₁,
      fun ideal => absurd ideal h.2.2⟩) (fun _ => ?_) io₁ rfl
  rintro io₂ ⟨coherent₂, view₂, file₂⟩
  refine Triple.bind (P := (· = io₂)) ((cacheWrite_triple env coherent₂).weaken (fun _ h => h)
    (fun _ _ h => h) fun _ io' h => ⟨l ++ [c], linked io' h.1 (h.2.1.view.trans view₂),
      h.2.1.file.trans (file₂.trans file₁), fun ideal => absurd ideal h.2.2⟩) (fun _ => ?_) io₂ rfl
  exact .pure fun io₃ h => ⟨linked io₃ h.1 (h.2.view.trans view₂), h.2.file.trans (file₂.trans file₁)⟩

end Allocation

section Follow

def fileNext (env : Env) (ctx : Context) (cluster : Nat) : IoM Nat := do
  let next ← fat32ReadEntry env ctx cluster
  reject (isEoc next = true) .corrupt
  return next

/-- The link behind a cluster, which is made when it is not there. -/
def fileNextForWrite (env : Env) (ctx : Context) (cluster : Nat) : IoM Nat := do
  let next ← fat32ReadEntry env ctx cluster
  if isEoc next = true then fileAllocateNext env ctx cluster else pure next

def follow (link : Nat → IoM Nat) : Nat → IoM Unit
  | 0 => pure ()
  | left + 1 => do
    let file ← read Io.file
    let next ← link file.currentCluster
    updateFile fun file => { file with currentCluster := next }
    follow link left

theorem fileFollow_eq (env : Env) (ctx : Context) (left : Nat) :
    fileFollow env ctx left = follow (fileNext env ctx) left := by
  induction left with
  | zero => rfl
  | succ left ih =>
    rw [fileFollow, follow, ih]
    funext io
    rw [bind_ok _ (read_run _), bind_ok _ (read_run _), fileNext, Prog.bind_assoc]
    refine congrFun (congrArg (fat32ReadEntry env ctx io.file.currentCluster >>= ·) (funext fun next => ?_)) io
    rw [Prog.bind_assoc]
    rfl

theorem fileFollowForWrite_eq (env : Env) (ctx : Context) (left : Nat) :
    fileFollowForWrite env ctx left = follow (fileNextForWrite env ctx) left := by
  induction left with
  | zero => rfl
  | succ left ih =>
    rw [fileFollowForWrite, follow, ih]
    funext io
    rw [bind_ok _ (read_run _), bind_ok _ (read_run _), fileNextForWrite, Prog.bind_assoc]
    refine congrFun (congrArg (fat32ReadEntry env ctx io.file.currentCluster >>= ·) (funext fun next => ?_)) io
    cases isEoc next with
    | true => rfl
    | false => rfl

/-- How many links a walk of so many follows before it stops. -/
def linksFollowed (link : Nat → IoM Nat) : Nat → Io → Nat
  | 0, _ => 0
  | left + 1, io =>
    match link io.file.currentCluster io with
    | some (.ok next, io') => linksFollowed link left { io' with file := { io'.file with currentCluster := next } } + 1
    | _ => 0

def LinkOk (env : Env) (ctx : Context) (link : Nat → IoM Nat) (stuck : Nat → List Nat → Io → Prop) : Prop :=
  ∀ (io : Io) (l : List Nat) (j c : Nat), io.Coherent → Threaded ctx io.view l → l[j]? = some c →
    Triple (· = io) (link c)
      (fun next io' => ∃ l', Grown env ctx io l io' l' ∧ l'[j + 1]? = some next ∧ io'.file = io.file)
      fun _ io' => ∃ l', Grown env ctx io l io' l' ∧ io'.file = io.file ∧ (env.Ideal → stuck j l' io')

/-- The cursor's cluster is the one at this place of the chain, and nothing else of the handle has changed. -/
def MovedTo (io : Io) (i : Nat) (io' : Io) (l' : List Nat) : Prop :=
  l'[i]? = some io'.file.currentCluster ∧ io'.file = { io.file with currentCluster := io'.file.currentCluster }

theorem follow_triple (ok : LinkOk env ctx link stuck) (left : Nat) {j : Nat} (coherent : io.Coherent)
    (threaded : Threaded ctx io.view l) (here : l[j]? = some io.file.currentCluster) :
    Triple (· = io) (follow link left)
      (fun _ io' => ∃ l', Grown env ctx io l io' l' ∧ MovedTo io (j + left) io' l' ∧ linksFollowed link left io = left)
      fun _ io' => ∃ l', Grown env ctx io l io' l' ∧ MovedTo io (j + linksFollowed link left io) io' l' ∧
        linksFollowed link left io < left ∧ (env.Ideal → stuck (j + linksFollowed link left io) l' io') := by
  induction left generalizing io l j with
  | zero =>
    refine .pure fun io' same => ?_
    subst same
    exact ⟨l, Grown.of_view coherent threaded rfl, ⟨here, rfl⟩, rfl⟩
  | succ left ih =>
    rintro io rfl r io' run
    rw [follow, bind_ok _ (read_run _)] at run
    have step := ok io l j io.file.currentCluster coherent threaded here
    rw [linksFollowed]
    rcases of_bind run with ⟨e, stepped, rfl⟩ | ⟨next, io₁, stepped, run⟩
    · obtain ⟨l', grown, file, stays⟩ := step io rfl _ _ stepped
      rw [stepped]
      refine ⟨l', grown, ⟨?_, ?_⟩, Nat.succ_pos left, stays⟩
      · rw [file]
        exact grown.kept here
      · rw [file]
    · rw [bind_ok _ (updateFile_run _ _)] at run
      rw [stepped]
      obtain ⟨l₁, grown, there, file⟩ := step io rfl _ _ stepped
      have rest := @ih { io₁ with file := { io₁.file with currentCluster := next } } l₁ (j + 1) grown.coherent
        grown.threaded there _ rfl r io' run
      have onward : ∀ {l' io'} {i : Nat},
          Grown env ctx { io₁ with file := { io₁.file with currentCluster := next } } l₁ io' l' →
          MovedTo { io₁ with file := { io₁.file with currentCluster := next } } i io' l' →
          Grown env ctx io l io' l' ∧ MovedTo io i io' l' := by
        intro l' io' i later moved
        refine ⟨grown.trans (later.congr_left rfl), moved.1, ?_⟩
        have same := moved.2
        dsimp only at same
        rwa [file] at same
      cases r with
      | ok _ =>
        obtain ⟨l', later, moved, all⟩ := rest
        rw [Nat.add_assoc, Nat.add_comm 1 left] at moved
        obtain ⟨whole, moved'⟩ := onward later moved
        exact ⟨l', whole, moved', congrArg (· + 1) all⟩
      | error e =>
        obtain ⟨l', later, moved, short, stays⟩ := rest
        rw [Nat.add_assoc, Nat.add_comm 1] at moved stays
        obtain ⟨whole, moved'⟩ := onward later moved
        exact ⟨l', whole, moved', Nat.succ_lt_succ short, stays⟩

theorem fileNext_ok (env : Env) (ctx : Context) : LinkOk env ctx (fileNext env ctx) fun _ _ _ => True := by
  intro io l j c coherent threaded here
  rw [fileNext]
  refine .bind ((fat32ReadEntry_triple env coherent (threaded.mem_known here)).weaken (fun _ h => h) (fun _ _ h => h)
    fun _ io' h => ⟨l, Grown.of_view h.1 threaded h.2.1.view, h.2.1.file, fun _ => trivial⟩) fun next => ?_
  rintro io₁ ⟨rfl, coherent₁, looked⟩
  have grown : Grown env ctx io l io₁ l := Grown.of_view coherent₁ threaded looked.view
  intro r io' run
  cases eoc : isEoc (fatEntry ctx io.view c) with
  | true =>
    rw [reject_bind_pos _ eoc] at run
    cases run
    exact ⟨l, grown, looked.file, fun _ => trivial⟩
  | false =>
    rw [reject_bind_neg _ (by rw [eoc]; decide)] at run
    cases run
    refine ⟨l, grown, ?_, looked.file⟩
    rw [← threaded.next here]
    exact linkOf_some.mpr ⟨eoc, rfl⟩

def Full (ctx : Context) (j : Nat) (l : List Nat) (io : Io) : Prop := l.length = j + 1 ∧ freeClusters ctx io.view = ∅

theorem last_of_next_none {j c : Nat} (here : l[j]? = some c) (ends : l[j + 1]? = none) :
    l.length = j + 1 ∧ ∃ front, l = front ++ [c] := by
  have short := List.getElem?_eq_none_iff.mp ends
  obtain ⟨low, same⟩ := List.getElem?_eq_some_iff.mp here
  have count : l.length = j + 1 := by omega
  refine ⟨count, l.dropLast, ?_⟩
  have nonempty : l ≠ [] := List.ne_nil_of_length_pos (by omega)
  have last : l.getLast nonempty = c := by
    rw [List.getLast_eq_getElem, ← same]
    congr 1
    omega
  rw [← last]
  exact (List.dropLast_append_getLast nonempty).symm

theorem fileNextForWrite_ok (geometry : Geometry ctx) : LinkOk env ctx (fileNextForWrite env ctx) (Full ctx) := by
  intro io l j c coherent threaded here
  rw [fileNextForWrite]
  refine .bind ((fat32ReadEntry_triple env coherent (threaded.mem_known here)).weaken (fun _ h => h) (fun _ _ h => h)
    fun _ io' h => ⟨l, Grown.of_view h.1 threaded h.2.1.view, h.2.1.file, fun ideal => absurd ideal h.2.2⟩)
      fun next => ?_
  rintro io₁ ⟨rfl, coherent₁, looked⟩
  have grown : Grown env ctx io l io₁ l := Grown.of_view coherent₁ threaded looked.view
  cases eoc : isEoc (fatEntry ctx io.view c) with
  | true =>
    rw [if_pos rfl]
    have ends : l[j + 1]? = none := by
      rw [← threaded.next here]
      exact linkOf_none.mpr eoc
    obtain ⟨count, front, split⟩ := last_of_next_none here ends
    refine Triple.weaken (fileAllocateNext_triple geometry.fatWellFormed geometry coherent₁ grown.threaded split)
      (fun _ h => h) (fun c' io' h => ?_) (fun e io' h => ?_) io₁ rfl
    · refine ⟨l ++ [c'], grown.trans h.1, ?_, h.2.trans looked.file⟩
      rw [← count, List.getElem?_concat_length]
    · obtain ⟨l', later, file, full⟩ := h
      refine ⟨l', grown.trans later, file.trans looked.file, fun ideal => ?_⟩
      obtain ⟨rfl, none⟩ := full ideal
      exact ⟨count, none⟩
  | false =>
    rw [if_neg (by decide)]
    intro r io' run
    cases run
    refine ⟨l, grown, ?_, looked.file⟩
    rw [← threaded.next here]
    exact linkOf_some.mpr ⟨eoc, rfl⟩

end Follow

section Move

variable {target lag : Nat}

def File.firstCluster? (file : File) : Option Nat :=
  if isValidCluster file.startCluster = true then some file.startCluster else none

/-- The cursor is on a cluster of the file's chain, so far ahead of its index. -/
structure Standing (ctx : Context) (io : Io) (l : List Nat) (lag : Nat) : Prop where
  coherent : io.Coherent
  threaded : Threaded ctx io.view l
  first : io.file.firstCluster? = l.head?
  cursor : l ≠ [] → l[io.file.currentClusterIndex + lag]? = some io.file.currentCluster

def File.rewindBefore (target : Nat) (file : File) : File :=
  if target < file.currentClusterIndex then { file with currentCluster := file.startCluster, currentClusterIndex := 0 }
  else file

def Io.rewindBefore (target : Nat) (io : Io) : Io := { io with file := io.file.rewindBefore target }

theorem fileRewindBefore_run (target : Nat) (io : Io) :
    fileRewindBefore target io = some (.ok (), io.rewindBefore target) := rfl

def moveWith (link : Nat → IoM Nat) (target : Nat) : IoM Unit := do
  fileRewindBefore target
  let file ← read Io.file
  follow link (target - file.currentClusterIndex)
  updateFile fun file => { file with currentClusterIndex := target }

theorem fileMoveToClusterIndex_eq (env : Env) (ctx : Context) (target : Nat) :
    fileMoveToClusterIndex env ctx target = moveWith (fileNext env ctx) target := by
  rw [fileMoveToClusterIndex, moveWith]
  simp only [fileFollow_eq]

def linksTo (target : Nat) (io : Io) : Nat := target - (io.rewindBefore target).file.currentClusterIndex

/-- The walk gets past its first link, but not to its target. -/
def Breaks (link : Nat → IoM Nat) (target : Nat) (io : Io) : Prop :=
  0 < linksFollowed link (linksTo target io) (io.rewindBefore target) ∧
    linksFollowed link (linksTo target io) (io.rewindBefore target) < linksTo target io

theorem File.firstCluster?_some {file : File} {c : Nat} (h : file.firstCluster? = some c) : file.startCluster = c := by
  rw [firstCluster?] at h
  split at h
  · exact Option.some.inj h
  · exact nomatch h

theorem Standing.start (standing : Standing ctx io l lag) (nonempty : l ≠ []) : l[0]? = some io.file.startCluster := by
  obtain ⟨a, rest, rfl⟩ := List.exists_cons_of_ne_nil nonempty
  exact congrArg some (File.firstCluster?_some standing.first).symm

theorem Standing.rewind (standing : Standing ctx io l lag) (nonempty : l ≠ []) (target : Nat) :
    ∃ lag', lag' ≤ lag ∧ (io.rewindBefore target).file.currentClusterIndex ≤ target ∧
      Standing ctx (io.rewindBefore target) l lag' := by
  by_cases before : target < io.file.currentClusterIndex
  · have moved : (io.rewindBefore target).file =
        { io.file with currentCluster := io.file.startCluster, currentClusterIndex := 0 } := if_pos before
    refine ⟨0, Nat.zero_le lag, ?_, standing.coherent, standing.threaded, ?_, fun _ => ?_⟩
    · rw [moved]
      exact Nat.zero_le target
    · rw [moved]
      exact standing.first
    · rw [moved]
      exact standing.start nonempty
  · have stays : (io.rewindBefore target).file = io.file := if_neg before
    refine ⟨lag, Nat.le_refl lag, ?_, standing.coherent, standing.threaded, ?_, fun _ => ?_⟩
    · rw [stays]
      omega
    · rw [stays]
      exact standing.first
    · rw [stays]
      exact standing.cursor nonempty

theorem rewindBefore_file (target : Nat) (io : Io) :
    (io.rewindBefore target).file = { io.file with
      currentCluster := (io.rewindBefore target).file.currentCluster
      currentClusterIndex := (io.rewindBefore target).file.currentClusterIndex } := by
  simp only [Io.rewindBefore, File.rewindBefore]
  split <;> rfl

def CursorOnly (io io' : Io) : Prop :=
  io'.file = { io.file with
    currentCluster := io'.file.currentCluster, currentClusterIndex := io'.file.currentClusterIndex }

theorem CursorOnly.first (only : CursorOnly io io') : io'.file.firstCluster? = io.file.firstCluster? := by
  rw [only]
  rfl

theorem CursorOnly.setIndex (only : CursorOnly io io') (i : Nat) :
    CursorOnly io { io' with file := { io'.file with currentClusterIndex := i } } := by
  have same := congrArg (fun file : File => { file with currentClusterIndex := i }) only
  exact same

theorem prefix_head {l l' : List Nat} (more : l <+: l') (nonempty : l ≠ []) : l'.head? = l.head? ∧ l' ≠ [] := by
  obtain ⟨rest, rfl⟩ := more
  obtain ⟨a, l, rfl⟩ := List.exists_cons_of_ne_nil nonempty
  exact ⟨rfl, List.cons_ne_nil a _⟩

/-- A walk that comes to its target leaves the cursor no further ahead; one that stops on its way
leaves it ahead by the links that it followed. -/
theorem moveWith_triple (ok : LinkOk env ctx link stuck) (standing : Standing ctx io l lag) (nonempty : l ≠ []) :
    Triple (· = io) (moveWith link target)
      (fun _ io' => ∃ l' lag', Grown env ctx io l io' l' ∧ Standing ctx io' l' lag' ∧ lag' ≤ lag ∧ CursorOnly io io' ∧
        io'.file.currentClusterIndex = target ∧ ¬Breaks link target io)
      fun _ io' => ∃ l' lag', Grown env ctx io l io' l' ∧ Standing ctx io' l' lag' ∧ CursorOnly io io' ∧
        (lag = 0 → (lag' = 0 ↔ ¬Breaks link target io)) ∧ (env.Ideal → ∃ j, j < target + lag ∧ stuck j l' io') := by
  obtain ⟨lag₀, less, behind, starts⟩ := standing.rewind nonempty target
  have walk := follow_triple ok (linksTo target io) starts.coherent starts.threaded (starts.cursor nonempty)
  have only : ∀ {i : Nat} {io' : Io} {l' : List Nat}, MovedTo (io.rewindBefore target) i io' l' →
      io'.file.currentClusterIndex = (io.rewindBefore target).file.currentClusterIndex ∧ CursorOnly io io' := by
    intro i io' l' moved
    have same := moved.2
    rw [rewindBefore_file] at same
    rw [CursorOnly, same]
    exact ⟨rfl, rfl⟩
  have arrives : (io.rewindBefore target).file.currentClusterIndex + lag₀ + linksTo target io = target + lag₀ := by
    rw [linksTo]
    omega
  rintro io rfl r io' run
  rw [moveWith, bind_ok _ (fileRewindBefore_run target io), bind_ok _ (read_run _), ← linksTo] at run
  cases followed : follow link (linksTo target io) (io.rewindBefore target) with
  | none =>
    rw [bind_none _ followed] at run
    exact nomatch run
  | some out =>
    obtain ⟨r₁, io₁⟩ := out
    have post := walk _ rfl _ _ followed
    cases r₁ with
    | ok _ =>
      rw [bind_ok _ followed] at run
      obtain ⟨rfl, rfl⟩ : r = .ok () ∧ io' = { io₁ with file := { io₁.file with currentClusterIndex := target } } := by
        cases run
        exact ⟨rfl, rfl⟩
      obtain ⟨l', grown, moved, all⟩ := post
      obtain ⟨head, -⟩ := prefix_head grown.more nonempty
      obtain ⟨-, cursorOnly⟩ := only moved
      refine ⟨l', lag₀, Grown.congr_right (grown.congr_left rfl) grown.coherent rfl,
        ⟨grown.coherent, grown.threaded, ?_, fun _ => ?_⟩, less, cursorOnly.setIndex target, rfl, ?_⟩
      · rw [head, ← standing.first]
        exact cursorOnly.first
      · dsimp only
        rw [← arrives]
        exact moved.1
      · rintro ⟨-, short⟩
        rw [all] at short
        exact Nat.lt_irrefl _ short
    | error e =>
      rw [bind_error _ followed] at run
      cases run
      obtain ⟨l', grown, moved, short, stays⟩ := post
      obtain ⟨head, -⟩ := prefix_head grown.more nonempty
      obtain ⟨index, cursorOnly⟩ := only moved
      refine ⟨l', lag₀ + linksFollowed link (linksTo target io) (io.rewindBefore target), grown.congr_left rfl,
        ⟨grown.coherent, grown.threaded, ?_, fun _ => ?_⟩, cursorOnly, fun tight => ?_, fun ideal => ?_⟩
      · rw [head, ← standing.first]
        exact cursorOnly.first
      · rw [index, ← Nat.add_assoc]
        exact moved.1
      · have none : lag₀ = 0 := by omega
        rw [none, Nat.zero_add, Breaks, not_and]
        constructor
        · intro zero positive
          omega
        · intro reaches
          by_contra positive
          exact reaches (Nat.pos_of_ne_zero positive) short
      · exact ⟨_, by omega, stays ideal⟩

theorem fileMoveToClusterIndexForWrite_eq (env : Env) (ctx : Context) (target : Nat) (io : Io) :
    fileMoveToClusterIndexForWrite env ctx target io =
      (onlyIf (isValidCluster io.file.startCluster = false) (fileAllocateFirst env ctx) >>= fun _ =>
        moveWith (fileNextForWrite env ctx) target) io := by
  rw [fileMoveToClusterIndexForWrite, bind_ok _ (read_run _)]
  simp only [moveWith, fileFollowForWrite_eq]

/-- The first cluster is there, and the walk from it breaks. -/
def BreaksForWrite (env : Env) (ctx : Context) (target : Nat) (io : Io) : Prop :=
  ∃ io₁, onlyIf (isValidCluster io.file.startCluster = false) (fileAllocateFirst env ctx) io = some (.ok (), io₁) ∧
    Breaks (fileNextForWrite env ctx) target io₁

structure SameSpan (io io' : Io) : Prop where
  position : io'.file.position = io.file.position
  fileSize : io'.file.fileSize = io.file.fileSize
  isOpen : io'.file.isOpen = io.file.isOpen

theorem SameSpan.refl (io : Io) : SameSpan io io := ⟨rfl, rfl, rfl⟩

theorem SameSpan.trans {io₁ io₂ io₃ : Io} (first : SameSpan io₁ io₂) (second : SameSpan io₂ io₃) : SameSpan io₁ io₃ :=
  ⟨second.position.trans first.position, second.fileSize.trans first.fileSize, second.isOpen.trans first.isOpen⟩

theorem SameSpan.of_file (same : io'.file = io.file) : SameSpan io io' := by
  constructor <;> rw [same]

theorem CursorOnly.span (only : CursorOnly io io') : SameSpan io io' := by
  constructor <;> rw [only]

theorem Standing.valid (standing : Standing ctx io l lag) : isValidCluster io.file.startCluster = true ↔ l ≠ [] := by
  have first := standing.first
  rw [File.firstCluster?] at first
  constructor
  · rintro valid rfl
    rw [if_pos valid] at first
    exact nomatch first
  · intro nonempty
    by_contra invalid
    rw [if_neg invalid] at first
    exact nonempty (List.head?_eq_none_iff.mp first.symm)

section Write

variable (env) (geometry : Geometry ctx)
include geometry

theorem fileAllocateFirst_triple (coherent : io.Coherent) (threaded : Threaded ctx io.view []) :
    Triple (· = io) (fileAllocateFirst env ctx)
      (fun _ io' => ∃ c, Grown env ctx io [] io' [c] ∧ Standing ctx io' [c] 0 ∧ SameSpan io io')
      fun _ io' => Grown env ctx io [] io' [] ∧ io'.file = io.file ∧ (env.Ideal → freeClusters ctx io'.view = ∅) := by
  rw [fileAllocateFirst]
  refine .bind ((allocate_grown geometry.fatWellFormed geometry coherent threaded).weaken (fun _ h => h) (fun _ _ h => h)
    fun _ _ h => h) fun c => ?_
  rintro io₁ ⟨coherent₁, free, view, file⟩ r io' run
  cases run
  have inside := (mem_freeClusters.mp free).1
  have low := (geometry.inRange_iff.mp inside).1
  have valid : isValidCluster c = true := decide_eq_true low
  have threaded₁ : Threaded ctx io₁.view [c] := by
    rw [view]
    exact Threaded.first free
  have sum : room ctx io₁.view [c] = room ctx io.view [] := by
    have count := card_free_mark geometry.fatWellFormed free
    rw [room, room, view, List.length_singleton, List.length_nil]
    omega
  refine ⟨c, ⟨coherent₁, threaded₁, List.nil_prefix, ?_, Nat.le_of_eq sum, fun _ => sum⟩,
    ⟨coherent₁, threaded₁, if_pos valid, fun _ => rfl⟩, ?_⟩
  · intro s high
    have same : io₁.view s = io.view s := by
      rw [view]
      exact writeFat_data geometry inside io.view _ high
    exact same
  · constructor
    all_goals
      dsimp only
      rw [file]

/-- The walk of a write. Without a failure of the driver it stops on a full disk only. -/
theorem fileMoveToClusterIndexForWrite_triple (target : Nat) (standing : Standing ctx io l lag) :
    Triple (· = io) (fileMoveToClusterIndexForWrite env ctx target)
      (fun _ io' => ∃ l' lag', Grown env ctx io l io' l' ∧ Standing ctx io' l' lag' ∧ lag' ≤ lag ∧ SameSpan io io' ∧
        l' ≠ [] ∧ io'.file.currentClusterIndex = target ∧ ¬BreaksForWrite env ctx target io)
      fun _ io' => ∃ l' lag', Grown env ctx io l io' l' ∧ Standing ctx io' l' lag' ∧
        SameSpan io io' ∧ (l' = [] → lag' = 0) ∧
        (lag = 0 → (lag' = 0 ↔ ¬BreaksForWrite env ctx target io)) ∧
        (env.Ideal → l'.length ≤ target + lag ∧ freeClusters ctx io'.view = ∅) := by
  have walk : ∀ (io₁ : Io) (l₁ : List Nat) (lag₁ : Nat), lag₁ ≤ lag → Grown env ctx io l io₁ l₁ →
      Standing ctx io₁ l₁ lag₁ →
      l₁ ≠ [] → SameSpan io io₁ →
      onlyIf (isValidCluster io.file.startCluster = false) (fileAllocateFirst env ctx) io = some (.ok (), io₁) →
      Triple (· = io₁) (moveWith (fileNextForWrite env ctx) target)
        (fun _ io' => ∃ l' lag', Grown env ctx io l io' l' ∧ Standing ctx io' l' lag' ∧ lag' ≤ lag ∧ SameSpan io io' ∧
          l' ≠ [] ∧ io'.file.currentClusterIndex = target ∧ ¬BreaksForWrite env ctx target io)
        fun _ io' => ∃ l' lag', Grown env ctx io l io' l' ∧ Standing ctx io' l' lag' ∧ SameSpan io io' ∧
          (l' = [] → lag' = 0) ∧ (lag = 0 → (lag' = 0 ↔ ¬BreaksForWrite env ctx target io)) ∧
          (env.Ideal → l'.length ≤ target + lag ∧ freeClusters ctx io'.view = ∅) := by
    intro io₁ l₁ lag₁ less grown stands nonempty span run₁
    have breaks : BreaksForWrite env ctx target io ↔ Breaks (fileNextForWrite env ctx) target io₁ := by
      constructor
      · rintro ⟨io₂, run₂, breaks⟩
        rw [run₁] at run₂
        cases run₂
        exact breaks
      · exact fun breaks => ⟨io₁, run₁, breaks⟩
    rw [breaks]
    refine (moveWith_triple (fileNextForWrite_ok geometry) stands nonempty).weaken (fun _ h => h) ?_ ?_
    · rintro _ io' ⟨l', lag', later, stands', less', only, index, whole⟩
      exact ⟨l', lag', grown.trans later, stands', Nat.le_trans less' less, span.trans only.span,
        (prefix_head later.more nonempty).2, index, whole⟩
    · rintro _ io' ⟨l', lag', later, stands', only, tight, full⟩
      refine ⟨l', lag', grown.trans later, stands', span.trans only.span,
        fun none => absurd none (prefix_head later.more nonempty).2, fun zero => tight (by omega), fun ideal => ?_⟩
      obtain ⟨j, low, count, none⟩ := full ideal
      exact ⟨by omega, none⟩
  rintro io rfl r io' run
  rw [fileMoveToClusterIndexForWrite_eq] at run
  cases valid : isValidCluster io.file.startCluster with
  | true =>
    have skipped : onlyIf (isValidCluster io.file.startCluster = false) (fileAllocateFirst env ctx) io =
        some (.ok (), io) := by
      rw [onlyIf, if_neg (by rw [valid]; decide)]
      rfl
    rw [bind_ok _ skipped] at run
    exact walk io l lag (Nat.le_refl lag) (Grown.of_view standing.coherent standing.threaded rfl) standing
      (standing.valid.mp valid) (SameSpan.refl io) skipped io rfl r io' run
  | false =>
    have empty : l = [] := by
      by_contra nonempty
      rw [standing.valid.mpr nonempty] at valid
      cases valid
    subst empty
    have taken : onlyIf (isValidCluster io.file.startCluster = false) (fileAllocateFirst env ctx) =
        fileAllocateFirst env ctx :=
      if_pos valid
    have first := fileAllocateFirst_triple env geometry standing.coherent standing.threaded
    rw [taken] at run
    rcases of_bind run with ⟨e, allocated, rfl⟩ | ⟨_, io₁, allocated, run⟩
    · obtain ⟨grown, file, full⟩ := first io rfl _ _ allocated
      refine ⟨[], 0, grown, ⟨grown.coherent, grown.threaded, ?_, fun nonempty => absurd rfl nonempty⟩,
        SameSpan.of_file file, fun _ => rfl, fun _ => iff_of_true rfl ?_, fun ideal => ⟨Nat.zero_le _, full ideal⟩⟩
      · rw [file]
        exact standing.first
      · rintro ⟨io₂, run₂, -⟩
        rw [taken, allocated] at run₂
        cases run₂
    · obtain ⟨c, grown, stands, span⟩ := first io rfl _ _ allocated
      exact walk io₁ [c] 0 (Nat.zero_le lag) grown stands (List.cons_ne_nil c []) span (by rw [taken]; exact allocated)
        io₁ rfl r io' run

end Write

end Move

end XSDK.Fs
