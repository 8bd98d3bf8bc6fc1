import XSDK.Fs.FileCursor

/-! Truncating, and when the calls on an open file keep its cursor in place. -/
namespace XSDK.Fs

open Library Prog

variable {env : Env} {ctx : Context} {io io' : Io} {l l' : List Nat} {lag : Nat}

section Release

/-- The first round of a release: a cluster is freed, and its link is known. -/
def releaseFirst (env : Env) (ctx : Context) (cluster : Nat) : IoM Nat := do
  let next ← fat32ReadEntry env ctx cluster
  fat32WriteEntry env ctx cluster fat32FreeCluster
  return next

/-- The release of the file's chain gets past its first cluster, but not to the end. -/
def ReleaseBreaks (env : Env) (ctx : Context) (io : Io) : Prop :=
  (∃ next io₁, releaseFirst env ctx io.file.startCluster io = some (.ok next, io₁)) ∧
    ∀ io', fat32ReleaseChain env ctx io.file.startCluster io ≠ some (.ok (), io')

structure Released (ctx : Context) (l : List Nat) (io io' : Io) : Prop where
  coherent : io'.Coherent
  file : io'.file = io.file
  others : ∀ c < 2 + ctx.totalClusters, c ∉ l → fatEntry ctx io'.view c = fatEntry ctx io.view c

theorem Released.of_looked (coherent : io'.Coherent) (view : io'.view = io.view) (file : io'.file = io.file) :
    Released ctx l io io' := by
  refine ⟨coherent, file, fun c _ _ => ?_⟩
  rw [view]

variable (env) (wf : FatWellFormed ctx)
include wf

theorem releaseFirst_triple {c : Nat} {rest : List Nat} (coherent : io.Coherent)
    (threaded : Threaded ctx io.view (c :: rest)) :
    Triple (· = io) (releaseFirst env ctx c)
      (fun next io' => Released ctx [c] io io' ∧ fatEntry ctx io'.view c = fat32FreeCluster ∧ Threaded ctx io'.view rest ∧
        next = fatEntry ctx io.view c)
      fun _ io' => Released ctx [c] io io' ∧ io'.view = io.view := by
  have inside := threaded.known c List.mem_cons_self
  have fresh : c ∉ rest := (List.nodup_cons.mp threaded.nodup).1
  refine .bind ((fat32ReadEntry_triple env coherent inside).weaken (fun _ h => h) (fun _ _ h => h)
    fun _ io' h => ⟨Released.of_looked h.1 h.2.1.view h.2.1.file, h.2.1.view⟩) fun next => ?_
  rintro io₁ ⟨rfl, coherent₁, looked⟩
  refine Triple.bind (P := (· = io₁)) ((fat32WriteEntry_triple env coherent₁ inside fat32FreeCluster).weaken (fun _ h => h)
    (fun _ _ h => h) fun _ io' h => ⟨Released.of_looked h.1 (h.2.1.view.trans looked.view) (h.2.1.file.trans looked.file),
      h.2.1.view.trans looked.view⟩) (fun _ => ?_) io₁ rfl
  refine .pure fun io₂ h => ?_
  obtain ⟨coherent₂, view, file⟩ := h
  rw [looked.view] at view
  have others : ∀ x < 2 + ctx.totalClusters, x ≠ c → fatEntry ctx io₂.view x = fatEntry ctx io.view x := by
    intro x high ne
    rw [view]
    exact fatEntry_writeFat_ne wf high inside ne
  refine ⟨⟨coherent₂, file.trans looked.file, fun x high other => ?_⟩, ?_, ?_, rfl⟩
  · exact others x high fun same => other (List.mem_singleton.mpr same)
  · rw [view]
    exact fatEntry_writeFat ctx io.view c fat32FreeCluster
  · refine threaded.tail.congr fun x mem => others x ?_ fun same => fresh (same ▸ mem)
    exact (wf.inRange_iff.mp (threaded.known x (List.mem_cons_of_mem c mem))).2

theorem releaseFrom_leaves {fuel c : Nat} {rest : List Nat} (coherent : io.Coherent)
    (threaded : Threaded ctx io.view (c :: rest)) :
    Triple (· = io) (releaseFrom env ctx fuel c) (fun _ io' => Released ctx (c :: rest) io io') fun _ io' =>
      Released ctx (c :: rest) io io' ∧
        ((io'.view = io.view ∧ ∀ next io₁, releaseFirst env ctx c io ≠ some (.ok next, io₁)) ∨
          (fatEntry ctx io'.view c = fat32FreeCluster ∧ ∃ next io₁, releaseFirst env ctx c io = some (.ok next, io₁))) := by
  induction fuel generalizing io c rest with
  | zero => exact .hang
  | succ fuel ih =>
    have inside := threaded.known c List.mem_cons_self
    have fresh : c ∉ rest := (List.nodup_cons.mp threaded.nodup).1
    rintro io rfl r io' run
    rw [releaseFrom, if_pos inside] at run
    have shape : (releaseFirst env ctx c >>= fun next =>
        if isEoc next = true then cacheWrite env else releaseFrom env ctx fuel next) io = some (r, io') := by
      simp only [releaseFirst, Prog.bind_assoc, pure_bind]
      exact run
    rcases of_bind shape with ⟨e, first, rfl⟩ | ⟨next, io₁, first, ended⟩
    · obtain ⟨released, view⟩ := releaseFirst_triple env wf coherent threaded io rfl _ _ first
      refine ⟨Released.of_looked released.coherent view released.file, .inl ⟨view, fun next io₁ h => ?_⟩⟩
      rw [first] at h
      cases h
    · obtain ⟨released, freed, chain, rfl⟩ := releaseFirst_triple env wf coherent threaded io rfl _ _ first
      have done : ∀ io₂, Released ctx rest io₁ io₂ → Released ctx (c :: rest) io io₂ ∧
          fatEntry ctx io₂.view c = fat32FreeCluster := by
        intro io₂ later
        refine ⟨⟨later.coherent, later.file.trans released.file, fun x high other => ?_⟩, ?_⟩
        · obtain ⟨ne, other'⟩ := not_or.mp (mt List.mem_cons.mpr other)
          rw [later.others x high other']
          exact released.others x high fun mem => ne (List.mem_singleton.mp mem)
        · rw [later.others c (wf.inRange_iff.mp inside).2 fresh]
          exact freed
      cases eoc : isEoc (fatEntry ctx io.view c) with
      | true =>
        rw [eoc, if_pos rfl] at ended
        have post := cacheWrite_triple env released.coherent io₁ rfl r io' ended
        cases r with
        | ok _ => exact (done io' (Released.of_looked post.1 post.2.view post.2.file)).1
        | error e =>
          obtain ⟨whole, zero⟩ := done io' (Released.of_looked post.1 post.2.1.view post.2.1.file)
          exact ⟨whole, .inr ⟨zero, _, io₁, first⟩⟩
      | false =>
        rw [eoc, if_neg (by decide)] at ended
        have next : linkOf ctx io.view c = (c :: rest)[1]? := threaded.next (i := 0) rfl
        rw [linkOf_some.mpr ⟨eoc, rfl⟩] at next
        obtain ⟨rest', rfl⟩ : ∃ rest', rest = fatEntry ctx io.view c :: rest' := by
          cases rest with
          | nil => cases next
          | cons a rest' =>
            cases next
            exact ⟨rest', rfl⟩
        have post := ih released.coherent chain io₁ rfl r io' ended
        cases r with
        | ok _ => exact (done io' post).1
        | error e =>
          obtain ⟨whole, zero⟩ := done io' post.1
          exact ⟨whole, .inr ⟨zero, _, io₁, first⟩⟩

theorem released_threaded (released : Released ctx l' io io') (threaded : Threaded ctx io.view l)
    (apart : ∀ c ∈ l, c ∉ l') : Threaded ctx io'.view l :=
  threaded.congr fun c mem => released.others c (wf.inRange_iff.mp (threaded.known c mem)).2 (apart c mem)

theorem fileReleaseAll_leaves (opened : Opened ctx io l 0) (nonempty : l ≠ []) :
    Triple (· = io) (fileReleaseAll env ctx)
      (fun _ io' => Standing ctx io' [] 0 ∧ io'.file.isOpen = true ∧ ¬ReleaseBreaks env ctx io)
      fun _ io' => Leaves ctx (ReleaseBreaks env ctx io) io' := by
  obtain ⟨c, rest, rfl⟩ := List.exists_cons_of_ne_nil nonempty
  have start : io.file.startCluster = c := File.firstCluster?_some opened.standing.first
  have inside := opened.standing.threaded.known c List.mem_cons_self
  rintro io rfl r io' run
  have shape : (fat32ReleaseChain env ctx io.file.startCluster >>= fun _ => updateFile fun file =>
      { file with startCluster := 0, currentCluster := 0, currentClusterIndex := 0 }) io = some (r, io') := by
    rw [fileReleaseAll, bind_ok _ (read_run _), onlyIf, if_pos (opened.standing.valid.mpr nonempty)] at run
    exact run
  have chain : fat32ReleaseChain env ctx io.file.startCluster io = releaseFrom env ctx env.fuel c io := by
    rw [start, fat32ReleaseChain, reject_bind_neg _ (by rw [inside]; decide)]
  have releases := @releaseFrom_leaves env ctx io wf env.fuel c rest opened.standing.coherent opened.standing.threaded io rfl
  rcases of_bind shape with ⟨e, ended, rfl⟩ | ⟨_, io₁, ended, run⟩
  · obtain ⟨released, ⟨view, never⟩ | ⟨freed, next, io₂, first⟩⟩ := releases _ _ (chain.symm.trans ended)
    · refine .inl ⟨?_, _, opened.moved (opened.standing.looked released.coherent view released.file)
        (SameSpan.of_file released.file) (List.prefix_refl _) fun _ => rfl⟩
      rintro ⟨⟨next, io₂, first⟩, -⟩
      rw [start] at first
      exact never next io₂ first
    · refine .inr ⟨⟨⟨next, io₂, by rw [start]; exact first⟩, fun io₃ h => ?_⟩, ?_⟩
      · rw [ended] at h
        cases h
      · rintro ⟨⟨l', threaded, head, -⟩, -⟩
        have mem : c ∈ l' := by
          rw [released.file, opened.standing.first] at head
          exact List.mem_of_mem_head? (by rw [← head]; rfl)
        exact threaded.not_free wf mem freed
  · have released := releases _ _ (chain.symm.trans ended)
    cases run
    refine ⟨⟨released.coherent, Threaded.nil ctx _, rfl, fun none => absurd rfl none⟩, ?_, fun breaks => breaks.2 io₁ ended⟩
    dsimp only
    rw [released.file]
    exact opened.isOpen

def cutBehind (env : Env) (ctx : Context) (retained : Nat) : IoM Unit := do
  let released ← fat32ReadEntry env ctx retained
  onlyIf (isEoc released = false) do
    fat32WriteEntry env ctx retained fat32EocMin
    cacheWrite env
    fat32ReleaseChain env ctx released

theorem cutBehind_leaves {xs ys : List Nat} {t : Nat} (opened : Opened ctx io (xs ++ t :: ys) 0)
    (index : io.file.currentClusterIndex = xs.length) (current : io.file.currentCluster = t) :
    Triple (· = io) (cutBehind env ctx t)
      (fun _ io' => (∃ l', Opened ctx io' l' 0 ∧ l' ≠ []) ∧ io'.file = io.file)
      fun _ io' => (∃ l', Opened ctx io' l' 0 ∧ l' ≠ []) ∧ io'.file = io.file := by
  have threaded := opened.standing.threaded
  have inside := threaded.known t (List.mem_append_right xs List.mem_cons_self)
  have nonempty : xs ++ t :: ys ≠ [] := List.append_ne_nil_of_right_ne_nil xs (List.cons_ne_nil t ys)
  have head : (xs ++ [t]).head? = (xs ++ t :: ys).head? := by
    cases xs with
    | nil => rfl
    | cons a rest => rfl
  have nonempty' : xs ++ [t] ≠ [] := List.append_ne_nil_of_right_ne_nil xs (List.cons_ne_nil t [])
  have same : ∀ io', io'.Coherent → io'.view = io.view → io'.file = io.file →
      (∃ l', Opened ctx io' l' 0 ∧ l' ≠ []) ∧ io'.file = io.file := fun io' coherent view file =>
    ⟨⟨_, opened.moved (opened.standing.looked coherent view file) (SameSpan.of_file file) (List.prefix_refl _) fun _ => rfl,
      nonempty⟩, file⟩
  have ended : ∀ io', io'.Coherent → Threaded ctx io'.view (xs ++ [t]) → io'.file = io.file →
      (∃ l', Opened ctx io' l' 0 ∧ l' ≠ []) ∧ io'.file = io.file := by
    intro io' coherent threaded' file
    refine ⟨⟨xs ++ [t], ⟨⟨coherent, threaded', ?_, fun _ => ?_⟩, ?_, ?_, ?_, fun none => absurd none nonempty'⟩, nonempty'⟩, file⟩
    · rw [file, head]
      exact opened.standing.first
    · rw [file, index, current, Nat.add_zero, List.getElem?_concat_length]
    · rw [file]
      exact opened.isOpen
    · rw [file]
      exact opened.position
    · rw [file]
      exact opened.word
  rw [cutBehind]
  refine .bind ((fat32ReadEntry_triple env opened.standing.coherent inside).weaken (fun _ h => h) (fun _ _ h => h)
    fun _ io' h => same io' h.1 h.2.1.view h.2.1.file) fun released => ?_
  rintro io₁ ⟨rfl, coherent₁, looked⟩
  have kept := same io₁ coherent₁ looked.view looked.file
  cases eoc : isEoc (fatEntry ctx io.view t) with
  | true =>
    rw [onlyIf, if_neg (by decide)]
    intro r io' run
    cases run
    exact kept
  | false =>
    rw [onlyIf, if_pos rfl]
    refine Triple.bind (P := (· = io₁)) ((fat32WriteEntry_triple env coherent₁ inside fat32EocMin).weaken (fun _ h => h)
      (fun _ _ h => h) fun _ io' h => same io' h.1 (h.2.1.view.trans looked.view) (h.2.1.file.trans looked.file))
      (fun _ => ?_) io₁ rfl
    rintro io₂ ⟨coherent₂, view₂, file₂⟩
    rw [looked.view] at view₂
    obtain ⟨front, back⟩ := threaded.cut wf
    have cut : ∀ io', io'.Coherent → Looked io₂ io' → (∃ l', Opened ctx io' l' 0 ∧ l' ≠ []) ∧ io'.file = io.file := by
      intro io' coherent later
      refine ended io' coherent ?_ (later.file.trans (file₂.trans looked.file))
      rw [later.view, view₂]
      exact front
    refine Triple.bind (P := (· = io₂)) ((cacheWrite_triple env coherent₂).weaken (fun _ h => h) (fun _ _ h => h)
      fun _ io' h => cut io' h.1 h.2.1) (fun _ => ?_) io₂ rfl
    rintro io₃ ⟨coherent₃, looked₃⟩
    -- the link that was cut led to the rest of the chain
    have next := threaded.next_head
    rw [linkOf_some.mpr ⟨eoc, rfl⟩] at next
    obtain ⟨rest, rfl⟩ : ∃ rest, ys = fatEntry ctx io.view t :: rest := by
      cases ys with
      | nil => cases next
      | cons a rest =>
        cases next
        exact ⟨rest, rfl⟩
    have known := back.known _ List.mem_cons_self
    have view₃ : io₃.view = writeFat ctx io.view t fat32EocMin := looked₃.view.trans view₂
    rw [← view₃] at front back
    have apart : ∀ c ∈ xs ++ [t], c ∉ fatEntry ctx io.view t :: rest := by
      have nodup := threaded.nodup
      rw [List.append_cons] at nodup
      obtain ⟨-, -, apart⟩ := List.nodup_append.mp nodup
      exact fun c mem mem' => apart c mem c mem' rfl
    have released : ∀ io', Released ctx (fatEntry ctx io.view t :: rest) io₃ io' →
        (∃ l', Opened ctx io' l' 0 ∧ l' ≠ []) ∧ io'.file = io.file := fun io' h =>
      ended io' h.coherent (released_threaded wf h front apart)
        (h.file.trans (looked₃.file.trans (file₂.trans looked.file)))
    intro r io' run
    rw [fat32ReleaseChain, reject_bind_neg _ (by rw [known]; decide)] at run
    have post := releaseFrom_leaves env wf coherent₃ back io₃ rfl r io' run
    cases r with
    | ok _ => exact released io' post
    | error e => exact released io' post.1

theorem fileReleaseBehind_leaves (target : Nat) (opened : Opened ctx io l 0) (nonempty : l ≠ []) :
    Triple (· = io) (fileReleaseBehind env ctx target)
      (fun _ io' => (∃ l', Opened ctx io' l' 0 ∧ l' ≠ []) ∧ SameSpan io io' ∧ ¬Breaks (fileNext env ctx) target io)
      fun _ io' => Leaves ctx (Breaks (fileNext env ctx) target io) io' := by
  rw [fileReleaseBehind]
  refine .bind (fileMoveToClusterIndex_triple target opened nonempty) fun _ => ?_
  rintro io₁ ⟨⟨l₁, opened₁, more⟩, span, index, whole⟩ r io' run
  have nonempty₁ := (prefix_head more nonempty).2
  obtain ⟨xs, ys, place, rfl⟩ : ∃ xs ys, xs.length = target ∧ l₁ = xs ++ io₁.file.currentCluster :: ys := by
    have here := opened₁.standing.cursor nonempty₁
    rw [index, Nat.add_zero] at here
    obtain ⟨low, there⟩ := List.getElem?_eq_some_iff.mp here
    refine ⟨l₁.take target, l₁.drop (target + 1), List.length_take_of_le (Nat.le_of_lt low), ?_⟩
    rw [← there, ← List.drop_eq_getElem_cons low, List.take_append_drop]
  have shape : (cutBehind env ctx io₁.file.currentCluster >>= fun _ => updateFile fun file =>
      { file with currentCluster := io₁.file.currentCluster, currentClusterIndex := target }) io₁ = some (r, io') := by
    simp only [cutBehind, Prog.bind_assoc]
    exact run
  cases ended : cutBehind env ctx io₁.file.currentCluster io₁ with
  | none =>
    rw [bind_none _ ended] at shape
    cases shape
  | some out =>
    obtain ⟨r₁, io₂⟩ := out
    have post := cutBehind_leaves env wf opened₁ (index.trans place.symm) rfl io₁ rfl _ _ ended
    cases r₁ with
    | error e =>
      rw [bind_error _ ended] at shape
      cases shape
      obtain ⟨⟨l', opened₂, -⟩, -⟩ := post
      exact .inl ⟨whole, l', opened₂⟩
    | ok _ =>
      rw [bind_ok _ ended] at shape
      obtain ⟨⟨l', opened₂, nonempty₂⟩, file⟩ := post
      have back : { io₂.file with currentCluster := io₁.file.currentCluster, currentClusterIndex := target } = io₂.file := by
        rw [← index, file]
      rw [updateFile_run, back] at shape
      cases shape
      exact ⟨⟨l', opened₂, nonempty₂⟩, span.trans (SameSpan.of_file file), whole⟩

end Release

section Truncate

/-- The walk to the last cluster to keep breaks, or the release of all of them. -/
def ShrinkBreaks (env : Env) (ctx : Context) (size : Nat) (io : Io) : Prop :=
  if fileRequiredClusterCount size (fileClusterSize ctx) = 0 then ReleaseBreaks env ctx io
  else Breaks (fileNext env ctx) (fileRequiredClusterCount size (fileClusterSize ctx) - 1) io

def TruncateBreaks (env : Env) (ctx : Context) (size : Nat) (io : Io) : Prop :=
  if size = io.file.fileSize then False
  else if size < io.file.fileSize then ShrinkBreaks env ctx size io
  else GrowthBreaks env ctx size io

variable (env) (geometry : Geometry ctx)
include geometry

theorem fileShrinkToSize_leaves (size : Nat) (opened : Opened ctx io l 0) (less : size < io.file.fileSize) :
    Triple (· = io) (fileShrinkToSize env ctx size) (fun _ io' => Leaves ctx (ShrinkBreaks env ctx size io) io')
      fun _ io' => Leaves ctx (ShrinkBreaks env ctx size io) io' := by
  have sized := geometry.fileClusterSize_pos
  have word := opened.word
  have nonempty : l ≠ [] := by
    intro none
    have zero := (opened.empty none).1
    omega
  rw [fileShrinkToSize, reject_bind_neg _ (by omega), ShrinkBreaks]
  dsimp only
  by_cases none : fileRequiredClusterCount size (fileClusterSize ctx) = 0
  · have zero : size = 0 := by
      rw [fileRequiredClusterCount] at none
      by_contra some
      have few : (size - 1) / fileClusterSize ctx ≤ size - 1 := Nat.div_le_self _ _
      rw [if_neg (by omega), word32_of_lt (Nat.lt_of_le_of_lt (Nat.succ_le_succ few) (by omega))] at none
      exact Nat.succ_ne_zero _ none
    rw [if_pos none, if_pos none]
    refine .bind (fileReleaseAll_leaves env geometry.fatWellFormed opened nonempty) fun _ => ?_
    refine .modify fun io₁ h => ?_
    obtain ⟨stands, isOpen, whole⟩ := h
    refine .inl ⟨whole, [], ⟨⟨stands.coherent, stands.threaded, stands.first, stands.cursor⟩, isOpen, ?_, ?_, fun _ => ⟨zero, rfl⟩⟩⟩
    · exact Nat.min_le_right _ _
    · dsimp only
      omega
  · rw [if_neg none, if_neg none]
    refine .bind (fileReleaseBehind_leaves env geometry.fatWellFormed _ opened nonempty) fun _ => ?_
    refine .modify fun io₁ h => ?_
    obtain ⟨⟨l', opened', nonempty'⟩, span, whole⟩ := h
    have stands := opened'.standing
    refine .inl ⟨whole, l', ⟨⟨stands.coherent, stands.threaded, stands.first, stands.cursor⟩, opened'.isOpen, ?_, ?_,
      fun none => absurd none nonempty'⟩⟩
    · exact Nat.min_le_right _ _
    · dsimp only
      omega

theorem fileTruncate_leaves (size : Nat) (opened : Opened ctx io l 0) :
    Triple (· = io) (fileTruncate env ctx size) (fun _ io' => Leaves ctx (TruncateBreaks env ctx size io) io')
      fun _ io' => Leaves ctx (TruncateBreaks env ctx size io) io' := by
  rintro io rfl r io' run
  rw [fileTruncate, bind_ok _ (read_run _), reject_bind_neg _ (by rw [opened.isOpen]; decide)] at run
  rw [TruncateBreaks]
  by_cases same : size = io.file.fileSize
  · rw [if_pos same] at run ⊢
    cases run
    exact .inl ⟨not_false, l, opened⟩
  · rw [if_neg same] at run ⊢
    by_cases less : size < io.file.fileSize
    · rw [if_pos less] at run ⊢
      exact fileShrinkToSize_leaves env geometry size opened less io rfl r io' run
    · rw [if_neg less] at run ⊢
      exact fileGrow_leaves env geometry size opened io rfl r io' run

end Truncate

/-- The calls on an open file. -/
inductive FileCall where
  | read (length : Nat)
  | write (bytes : List UInt8)
  | seek (position : Nat)
  | truncate (size : Nat)

namespace FileCall

def Ends (env : Env) (ctx : Context) (io io' : Io) : FileCall → Prop
  | .read length => ∃ r, fileRead env ctx length io = some (r, io')
  | .write bytes => ∃ r, fileWrite env ctx bytes 0 io = some (r, io')
  | .seek position => ∃ r, fileSeek env ctx position io = some (r, io')
  | .truncate size => ∃ r, fileTruncate env ctx size io = some (r, io')

def Breaks (env : Env) (ctx : Context) (io : Io) : FileCall → Prop
  | .read length => ReadBreaks env ctx length length io
  | .write bytes => WriteBreaks env ctx bytes.length bytes io
  | .seek position => SeekBreaks env ctx position io
  | .truncate size => TruncateBreaks env ctx size io

theorem leaves (geometry : Geometry ctx) (opened : Opened ctx io l 0) (call : FileCall)
    (ends : call.Ends env ctx io io') :
    Leaves ctx (call.Breaks env ctx io) io' := by
  cases call with
  | read length =>
    obtain ⟨r, run⟩ := ends
    have sized := geometry.fileClusterSize_pos
    rw [fileRead, bind_ok _ (read_run _), reject_bind_neg _ (by rw [opened.isOpen]; decide), reject_bind_neg _ (by omega)] at run
    have post := fileReadFrom_triple length length opened io rfl r io' run
    cases r with
    | ok _ => exact post
    | error e => exact post
  | write bytes =>
    obtain ⟨r, run⟩ := ends
    have post := fileWrite_leaves env geometry bytes 0 opened io rfl r io' run
    cases r with
    | ok _ => exact post.1
    | error e => exact absurd post not_false
  | seek position =>
    obtain ⟨r, run⟩ := ends
    have post := fileSeek_leaves geometry position opened io rfl r io' run
    cases r with
    | ok _ => exact post.1
    | error e => exact post
  | truncate size =>
    obtain ⟨r, run⟩ := ends
    have post := fileTruncate_leaves env geometry size opened io rfl r io' run
    cases r with
    | ok _ => exact post
    | error e => exact post

end FileCall

/-- A round of reading that is tried again stands on the cluster of its position. -/
def Retries (ctx : Context) (io : Io) : Prop :=
  ∀ (env : Env) (io' : Io), io.file.position < io.file.fileSize → fileReach env ctx io = some (.ok (), io') →
    io'.file.clusterAt ctx io'.view (io.file.position / fileClusterSize ctx) = some io'.file.currentCluster

theorem Opened.retries (opened : Opened ctx io l 0) : Retries ctx io := by
  intro env io' inside run
  have nonempty : l ≠ [] := by
    intro none
    have size := (opened.empty none).1
    omega
  obtain ⟨⟨l', opened', nonempty'⟩, index, -⟩ := fileReach_triple opened nonempty io rfl _ io' run
  rw [← index, opened'.standing.clusterAt]
  exact opened'.standing.cursor nonempty'

section Samples

def twoTables : Context := ⟨512, 1, 1, 3, 200, 2, true⟩

/-- A file with three clusters, whose links are not in one sector. -/
def scatteredIo : Io :=
  { blankIo with
    disk := writeFat twoTables (writeFat twoTables (writeFat twoTables (fun _ => zeroSector) 131 fat32EocMin) 130 131) 2 130
    file := ⟨2, 2, 0, 1536, 0, 2, 0, true, false⟩ }

def secondFails : Env := ⟨fun requests => if requests.length = 2 then some 5 else none, 0⟩

theorem twoTables_geometry : Geometry twoTables :=
  ⟨rfl, rfl, by decide, by decide, by decide, by decide, by decide, by decide, rfl⟩

theorem scatteredIo_opened : Opened twoTables scatteredIo [2, 130, 131] 0 := by
  have threaded : Threaded twoTables scatteredIo.view [2, 130, 131] := by
    refine ⟨by decide, ⟨rfl, ?_, ?_, ?_⟩⟩
    · decide +kernel
    · decide +kernel
    · change clusterLink twoTables scatteredIo.view 131 = none
      decide +kernel
  exact ⟨⟨fun valid => (nomatch valid), threaded, rfl, fun _ => rfl⟩, rfl, by decide, by decide, fun none => (nomatch none)⟩

theorem seek_ends (env : Env) (some : (fileSeek env twoTables 1024 scatteredIo).isSome = true) :
    ∃ io', (FileCall.seek 1024).Ends env twoTables scatteredIo io' := by
  obtain ⟨⟨r, io'⟩, run⟩ := Option.isSome_iff_exists.mp some
  exact ⟨io', r, run⟩

end Samples

end XSDK.Fs
